import IngressControl.Proofs.Change
import IngressControl.Proofs.StoredMaterial
import IngressControl.ServersPayload
import Mathlib.Data.List.Induction
import Mathlib.Data.List.Nodup

/-!
# What the payload tells of servers

Two tables are filled in one pass over the servers: which certificate each host is served, and the text
of each certificate. They are filled alike, with another key and another value, and what is put under a
key takes the place of what was there. So each table tells of a key what the last server with a certificate
and that key tells (`lookup_filled`).

Where all servers with one key tell the same, the order of the servers does not matter (`filled_perm`). That
is so of hosts when no two servers with a certificate share their hostname, and of certificates when no two
texts share an identity.
-/

namespace IngressControl

/-! ## Tables sorted by key -/

section

variable {entries entries' : List (String × String)} {k key value v : String}

theorem keys_insertKey :
    (insertKey key value entries).map Prod.fst = insertSorted key (entries.map Prod.fst) := by
  induction entries with
  | nil => rfl
  | cons entry rest ih =>
    obtain ⟨first, held⟩ := entry
    rw [insertKey, List.map_cons, insertSorted]
    cases order : compare key first with
    | lt => rfl
    | eq =>
      have same : key = first := Std.LawfulEqOrd.eq_of_compare order
      rw [same]
      rfl
    | gt =>
      dsimp only
      rw [List.map_cons, ih]

theorem lookup_cons_eq :
    ((key, value) :: entries).lookup k = if k = key then some value else entries.lookup k := by
  rw [List.lookup_cons]
  by_cases own : k = key
  · rw [if_pos own, beq_iff_eq.mpr own]
  · rw [if_neg own, beq_eq_false_iff_ne.mpr own]

/-- What is put under a key takes the place of what was there, and all else stays. -/
theorem lookup_insertKey :
    (insertKey key value entries).lookup k = if k = key then some value else entries.lookup k := by
  induction entries with
  | nil => exact lookup_cons_eq
  | cons entry rest ih =>
    obtain ⟨first, held⟩ := entry
    rw [insertKey]
    cases order : compare key first with
    | lt => exact lookup_cons_eq
    | eq =>
      have same : key = first := Std.LawfulEqOrd.eq_of_compare order
      dsimp only
      rw [lookup_cons_eq, lookup_cons_eq, same]
      by_cases own : k = first
      · rw [if_pos own, if_pos own]
      · rw [if_neg own, if_neg own, if_neg own]
    | gt =>
      have apart : first ≠ key := by
        rintro rfl
        have equal : compare first first = .eq := Std.ReflCmp.compare_self
        rw [order] at equal
        simp at equal
      dsimp only
      rw [lookup_cons_eq, lookup_cons_eq, ih]
      by_cases front : k = first
      · rw [if_pos front, if_pos front, if_neg (front ▸ apart)]
      · rw [if_neg front, if_neg front]

/-- In a table in the order of its keys, each entry is found by its key. -/
theorem mem_iff_lookup (ascending : Ascending (entries.map Prod.fst)) :
    (k, v) ∈ entries ↔ entries.lookup k = some v := by
  induction entries with
  | nil => simp
  | cons entry rest ih =>
    obtain ⟨first, held⟩ := entry
    obtain ⟨less, behind⟩ := List.pairwise_cons.mp ascending
    rw [List.mem_cons, lookup_cons_eq, Prod.mk.injEq, ih behind]
    by_cases front : k = first
    · -- no later entry has the first key
      have elsewhere : rest.lookup k ≠ some v := by
        intro found
        have later := less k (List.mem_map.mpr ⟨(k, v), (ih behind).mpr found, rfl⟩)
        rw [front] at later
        exact Std.OrientedCmp.not_lt_of_lt later later
      rw [if_pos front, Option.some.injEq]
      constructor
      · rintro (⟨_, same⟩ | found)
        · exact same.symm
        · exact absurd found elsewhere
      · exact fun same => Or.inl ⟨front, same.symm⟩
    · simp [front]

/-- Tables that tell the same of each key are the same. -/
theorem table_ext (ascending : Ascending (entries.map Prod.fst))
    (ascending' : Ascending (entries'.map Prod.fst))
    (same : ∀ k, entries.lookup k = entries'.lookup k) : entries = entries' := by
  have sorted := List.pairwise_map.mp ascending
  have sorted' := List.pairwise_map.mp ascending'
  have apart : ∀ {a b : String × String}, compare a.1 b.1 = .lt → a ≠ b := by
    rintro a b less rfl
    exact Std.OrientedCmp.not_lt_of_lt less less
  have permuted : entries.Perm entries' := by
    refine (List.perm_ext_iff_of_nodup (sorted.imp apart) (sorted'.imp apart)).mpr fun entry => ?_
    rw [mem_iff_lookup ascending, mem_iff_lookup ascending', same]
  refine permuted.eq_of_pairwise (fun a b _ _ less greater => ?_) sorted sorted'
  exact absurd greater (Std.OrientedCmp.not_lt_of_lt less)

end

/-! ## One pass over the servers -/

section

variable (key : Server → Certificate → String) (value : Certificate → String)

/-- Puts what a server's certificate tells under a key, if the server has one. -/
def fill (entries : List (String × String)) (s : Server) : List (String × String) :=
  match s.tls with
  | none => entries
  | some certificate => insertKey (key s certificate) (value certificate) entries

/-- The table that one pass over the servers fills. -/
def filled (servers : List Server) : List (String × String) := servers.foldl (fill key value) []

/-- The certificates of the servers that have a key, in order. -/
def keyed (servers : List Server) (k : String) : List Certificate :=
  servers.filterMap fun s => s.tls.filter fun certificate => key s certificate = k

variable {key value} {servers servers' : List Server} {s : Server} {entries : List (String × String)}
  {certificate : Certificate} {k v : String}

theorem mem_keyed : certificate ∈ keyed key servers k ↔
    ∃ s ∈ servers, s.tls = some certificate ∧ key s certificate = k := by
  simp [keyed, Option.filter_eq_some_iff]

theorem filled_snoc :
    filled key value (servers ++ [s]) = fill key value (filled key value servers) s := by
  rw [filled, filled, List.foldl_append]
  rfl

theorem lookup_fill : (fill key value entries s).lookup k =
    ((s.tls.filter fun certificate => key s certificate = k).map value).or (entries.lookup k) := by
  unfold fill
  cases s.tls with
  | none => rfl
  | some certificate =>
    dsimp only
    rw [lookup_insertKey, Option.filter_some]
    by_cases own : key s certificate = k
    · rw [if_pos own.symm, if_pos (decide_eq_true own)]
      rfl
    · rw [if_neg (Ne.symm own), if_neg (by simpa using own)]
      rfl

theorem ascending_fill (ascending : Ascending (entries.map Prod.fst)) :
    Ascending ((fill key value entries s).map Prod.fst) := by
  unfold fill
  cases s.tls with
  | none => exact ascending
  | some certificate =>
    dsimp only
    rw [keys_insertKey]
    exact ascending.insertSorted

theorem keyed_snoc : keyed key (servers ++ [s]) k =
    keyed key servers k ++ (s.tls.filter fun certificate => key s certificate = k).toList := by
  rw [keyed, List.filterMap_append]
  cases found : s.tls.filter fun certificate => key s certificate = k <;> simp [keyed, found]

/-- **A table tells of a key what the last server with that key tells.** -/
theorem lookup_filled (servers : List Server) (k : String) :
    (filled key value servers).lookup k = (keyed key servers k).getLast?.map value := by
  induction servers using List.reverseRecOn with
  | nil => rfl
  | append_singleton servers s ih =>
    rw [filled_snoc, lookup_fill, ih, keyed_snoc, List.getLast?_append, Option.map_or]
    cases s.tls.filter fun certificate => key s certificate = k <;> rfl

theorem ascending_filled (servers : List Server) :
    Ascending ((filled key value servers).map Prod.fst) := by
  induction servers using List.reverseRecOn with
  | nil => exact List.Pairwise.nil
  | append_singleton servers s ih =>
    rw [filled_snoc]
    exact ascending_fill ih

theorem mem_filled : (k, v) ∈ filled key value servers ↔
    ∃ certificate, (keyed key servers k).getLast? = some certificate ∧ value certificate = v := by
  rw [mem_iff_lookup (ascending_filled servers), lookup_filled, Option.map_eq_some_iff]

/-- What a table tells of a key, some server tells of it. -/
theorem exists_of_mem_filled (there : (k, v) ∈ filled key value servers) :
    ∃ s ∈ servers, ∃ certificate, s.tls = some certificate ∧ key s certificate = k ∧
      value certificate = v := by
  obtain ⟨certificate, last, told⟩ := mem_filled.mp there
  obtain ⟨s, hs, secured, own⟩ := mem_keyed.mp (List.mem_of_getLast? last)
  exact ⟨s, hs, certificate, secured, own, told⟩

theorem mem_keys_filled : k ∈ (filled key value servers).map Prod.fst ↔
    ∃ s ∈ servers, ∃ certificate, s.tls = some certificate ∧ key s certificate = k := by
  constructor
  · intro there
    obtain ⟨⟨k, v⟩, entry, rfl⟩ := List.mem_map.mp there
    obtain ⟨s, hs, certificate, secured, own, _⟩ := exists_of_mem_filled entry
    exact ⟨s, hs, certificate, secured, own⟩
  · rintro ⟨s, hs, certificate, secured, own⟩
    have there : certificate ∈ keyed key servers k := mem_keyed.mpr ⟨s, hs, secured, own⟩
    obtain ⟨last, found⟩ := Option.isSome_iff_exists.mp
      (List.getLast?_isSome.mpr (List.ne_nil_of_mem there))
    exact List.mem_map.mpr ⟨(k, value last), mem_filled.mpr ⟨last, found, rfl⟩, rfl⟩

/-- All servers with one key tell the same. -/
def Agreeing (key : Server → Certificate → String) (value : Certificate → String)
    (servers : List Server) : Prop :=
  ∀ s ∈ servers, ∀ s' ∈ servers, ∀ c c', s.tls = some c → s'.tls = some c' →
    key s c = key s' c' → value c = value c'

/-- Then a table tells what any of them tells. -/
theorem Agreeing.mem_filled (agreeing : Agreeing key value servers) :
    (k, v) ∈ filled key value servers ↔ ∃ s ∈ servers, ∃ certificate, s.tls = some certificate ∧
      key s certificate = k ∧ value certificate = v := by
  constructor
  · exact exists_of_mem_filled
  · rintro ⟨s, hs, certificate, secured, own, told⟩
    have listed : k ∈ (filled key value servers).map Prod.fst :=
      mem_keys_filled.mpr ⟨s, hs, certificate, secured, own⟩
    obtain ⟨⟨k', v'⟩, entry, same⟩ := List.mem_map.mp listed
    obtain rfl : k' = k := same
    obtain ⟨s', hs', certificate', secured', own', told'⟩ := exists_of_mem_filled entry
    have agree := agreeing s hs s' hs' _ _ secured secured' (own.trans own'.symm)
    rw [← told, agree, told']
    exact entry

/-- **The order of servers that agree does not matter.** -/
theorem filled_perm (agreeing : Agreeing key value servers) (permuted : servers'.Perm servers) :
    filled key value servers' = filled key value servers := by
  have agreeing' : Agreeing key value servers' := by
    intro s hs s' hs'
    exact agreeing s (permuted.mem_iff.mp hs) s' (permuted.mem_iff.mp hs')
  refine table_ext (ascending_filled _) (ascending_filled _) fun k => Option.ext fun v => ?_
  rw [← mem_iff_lookup (ascending_filled _), ← mem_iff_lookup (ascending_filled _),
    agreeing.mem_filled, agreeing'.mem_filled]
  simp only [permuted.mem_iff]

end

/-- The certificates of the servers with a hostname, in order. -/
def Configuration.certificatesOf (c : Configuration) (host : String) : List Certificate :=
  c.servers.filterMap fun s => if s.hostname = host then s.tls else none

namespace ServersPayload

/-- Hosts are the keys of the one table. -/
def byHost (s : Server) (_ : Certificate) : String := s.hostname

/-- Identities are the keys of the other one. -/
def byIdentity (_ : Server) (certificate : Certificate) : String := certificate.identity

variable {c : Configuration} {host id : String}

theorem of_eq (c : Configuration) :
    of c = ⟨filled byHost (·.identity) c.servers, filled byIdentity (·.pem) c.servers⟩ := by
  have passed : ∀ (servers : List Server) (p : ServersPayload), servers.foldl add p =
      ⟨servers.foldl (fill byHost (·.identity)) p.servers,
        servers.foldl (fill byIdentity (·.pem)) p.certificates⟩ := by
    intro servers
    induction servers with
    | nil => exact fun p => rfl
    | cons s rest ih =>
      intro p
      rw [List.foldl_cons, List.foldl_cons, List.foldl_cons, ih]
      unfold add fill
      cases s.tls <;> rfl
  exact passed c.servers {}

theorem keyed_byHost : keyed byHost c.servers host = c.certificatesOf host := by
  refine List.filterMap_congr fun s _ => ?_
  cases s.tls with
  | none => rw [Option.filter_none, ite_self]
  | some certificate =>
    rw [Option.filter_some, byHost]
    by_cases named : s.hostname = host
    · rw [if_pos (decide_eq_true named), if_pos named]
    · rw [if_neg (by simp [named]), if_neg named]

/-- The payload names the hosts that have a certificate. -/
theorem mem_hosts_of :
    host ∈ (of c).servers.map Prod.fst ↔ ∃ s ∈ c.servers, s.hostname = host ∧ s.tls.isSome = true := by
  rw [of_eq, mem_keys_filled]
  simp only [byHost, Option.isSome_iff_exists]
  constructor
  · rintro ⟨s, hs, certificate, secured, named⟩
    exact ⟨s, hs, named, certificate, secured⟩
  · rintro ⟨s, hs, named, certificate, secured⟩
    exact ⟨s, hs, certificate, secured, named⟩

theorem mem_identities_of : id ∈ (of c).certificates.map Prod.fst ↔ id ∈ c.certificateIdentities := by
  rw [of_eq, mem_keys_filled, Configuration.certificateIdentities, mem_sortedSet, List.mem_map]
  constructor
  · rintro ⟨s, hs, certificate, secured, own⟩
    exact ⟨certificate, List.mem_filterMap.mpr ⟨s, hs, secured⟩, own⟩
  · rintro ⟨certificate, there, own⟩
    obtain ⟨s, hs, secured⟩ := List.mem_filterMap.mp there
    exact ⟨s, hs, certificate, secured, own⟩

/-- Servers with a certificate and a hostname of their own agree on the certificate. -/
theorem agreeing_byHost
    (distinct : ((c.servers.filter (·.tls.isSome)).map (·.hostname)).Nodup) :
    Agreeing byHost (·.identity) c.servers := by
  intro s hs s' hs' certificate certificate' secured secured' named
  have there : s ∈ c.servers.filter (·.tls.isSome) := List.mem_filter.mpr ⟨hs, by simp [secured]⟩
  have there' : s' ∈ c.servers.filter (·.tls.isSome) := List.mem_filter.mpr ⟨hs', by simp [secured']⟩
  have same : s = s' := List.inj_on_of_nodup_map distinct there there' named
  rw [same, secured', Option.some.injEq] at secured
  rw [secured]

/-- Certificates with one identity have the same text, if no two texts share one. -/
theorem agreeing_byIdentity
    (free : CollisionFree fun b => ∃ certificate ∈ c.certificates, b = Utf8.encode certificate.pem) :
    Agreeing byIdentity (·.pem) c.servers := by
  intro s hs s' hs' certificate certificate' secured secured' same
  refine Utf8.encode_injective (free _ _ ⟨certificate, ?_, rfl⟩ ⟨certificate', ?_, rfl⟩ same)
  · exact List.mem_filterMap.mpr ⟨s, hs, secured⟩
  · exact List.mem_filterMap.mpr ⟨s', hs', secured'⟩

/-- **What the payload tells.** Each host that has a certificate is there once, and is served the
certificate of its last server that has one. The certificates in use are there once each, by their content
identities, and all that hosts are served are among them; under an identity stands the text of a server's
certificate, which has that identity. And when no two servers with a certificate share their hostname, the
order of the servers does not matter. -/
theorem payload_exact (c : Configuration) :
    (((of c).servers.map Prod.fst).Pairwise (· < ·) ∧ ∀ host,
        host ∈ (of c).servers.map Prod.fst ↔
          ∃ s ∈ c.servers, s.hostname = host ∧ s.tls.isSome = true) ∧
      (∀ host id, (host, id) ∈ (of c).servers ↔
        ∃ certificate, (c.certificatesOf host).getLast? = some certificate ∧
          certificate.identity = id) ∧
      (of c).certificates.map Prod.fst = c.certificateIdentities ∧
      (∀ host id, (host, id) ∈ (of c).servers → id ∈ (of c).certificates.map Prod.fst) ∧
      (∀ id pem, (id, pem) ∈ (of c).certificates → contentIdentity (Utf8.encode pem) = id ∧
        ∃ s ∈ c.servers, ∃ certificate, s.tls = some certificate ∧ certificate.pem = pem) ∧
      ∀ c' : Configuration, c'.servers.Perm c.servers →
        ((c.servers.filter (·.tls.isSome)).map (·.hostname)).Nodup →
        CollisionFree (fun b => ∃ certificate ∈ c.certificates, b = Utf8.encode certificate.pem) →
        of c' = of c := by
  refine ⟨⟨?_, fun host => mem_hosts_of⟩, fun host id => ?_, ?_, fun host id there => ?_,
    fun id pem there => ?_, fun c' permuted distinct free => ?_⟩
  · rw [of_eq]
    exact (ascending_filled c.servers).imp fun {a b} less => compareOfLessAndEq_eq_lt.mp less
  · rw [of_eq, mem_filled, keyed_byHost]
  · have ascending : Ascending ((of c).certificates.map Prod.fst) := by
      rw [of_eq]
      exact ascending_filled c.servers
    exact ascending.eq_of_mem_iff (ascending_sortedSet _) fun id => mem_identities_of
  · rw [of_eq] at there ⊢
    obtain ⟨s, hs, certificate, secured, _, told⟩ := exists_of_mem_filled there
    exact mem_keys_filled.mpr ⟨s, hs, certificate, secured, told⟩
  · rw [of_eq] at there
    obtain ⟨s, hs, certificate, secured, own, rfl⟩ := exists_of_mem_filled there
    exact ⟨own, s, hs, certificate, secured, rfl⟩
  · rw [of_eq, of_eq, filled_perm (agreeing_byHost distinct) permuted,
      filled_perm (agreeing_byIdentity free) permuted]

/-- Two hosts with a certificate each, one without, and one that shares a certificate. -/
def shared : Configuration where
  servers := [
    { hostname := "a.example", port := 443, tls := some { pem := "A" } },
    { hostname := "plain.example", port := 80 },
    { hostname := "b.example", port := 443, tls := some { pem := "B" } },
    { hostname := "c.example", port := 443, tls := some { name := "again", pem := "A" } }]

/-- The same servers the other way round. -/
def sharedReversed : Configuration where
  servers := shared.servers.reverse

theorem shared_free :
    CollisionFree fun b => ∃ certificate ∈ shared.certificates, b = Utf8.encode certificate.pem := by
  refine collisionFree_of_nodup (fun b there => ?_) (by decide +kernel :
    ([Utf8.encode "A", Utf8.encode "B"].map contentIdentity).Nodup)
  obtain ⟨certificate, used, rfl⟩ := there
  revert certificate
  decide

/-- Their order does not matter, although two of them have the same certificate. -/
theorem shared_reordered :
    sharedReversed.servers.Perm shared.servers ∧
      ((shared.servers.filter (·.tls.isSome)).map (·.hostname)).Nodup ∧
      of sharedReversed = of shared := by
  have permuted : sharedReversed.servers.Perm shared.servers := List.reverse_perm _
  have distinct : ((shared.servers.filter (·.tls.isSome)).map (·.hostname)).Nodup := by decide
  obtain ⟨_, _, _, _, _, order⟩ := payload_exact shared
  exact ⟨permuted, distinct, order sharedReversed permuted distinct shared_free⟩

end ServersPayload

end IngressControl
