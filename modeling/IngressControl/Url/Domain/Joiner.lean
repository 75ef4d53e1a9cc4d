import IngressControl.Text.Marks

/-!
# Joiners

Two characters that are not seen tell whether letters join. They may stand where they can make a
difference: behind a sign that kills a vowel, and the one that keeps letters apart also between two
letters that would join. Marks between the letters do not matter.
-/

namespace IngressControl.Joiner

/-- The signs that kill a vowel. -/
def vowelKillers : CodePoints := .ofTable "94d 9cd a4d acd b4d bcd c4d ccd d3b-d3c d4d dca e3a eba f84 1039-103a 1714-1715 1734 17d2 1a60
1b44 1baa-1bab 1bf2-1bf3 2d7f a806 a82c a8c4 a953 a9c0 aaf6 abed 10a3f 11046 11070 1107f 110b9
11133-11134 111c0 11235 112ea 1134d 113ce-113d0 11442 114c2 115bf 1163f 116b6 1172b 11839
1193d-1193e 119e0 11a34 11a47 11a99 11c3f 11d44-11d45 11d97 11f41-11f42 1612f"

/-- The letters that join on both sides. -/
def dual : CodePoints := .ofTable "620 626 628 62a-62e 633-63f 641-647 649-64a 66e-66f 679-687 69a-6bf 6c1-6c2 6cc 6ce 6d0-6d1
6fa-6fc 6ff 712-714 71a-71d 71f-727 729 72b 72d-72e 74e-758 75c-76a 76d-770 772 775-777 77a-77f
7ca-7ea 841-845 848 84a-853 855 860 862-865 868 886 889-88d 88f 8a0-8a9 8af-8b0 8b3-8b8 8ba-8c8
1807 1820-1878 1887-18a8 18aa a840-a871 10ac0-10ac4 10ad3-10ad6 10ad8-10adc 10ade-10ae0
10aeb-10aee 10b80 10b82 10b86-10b88 10b8a-10b8b 10b8d 10b90 10bad-10bae 10d01-10d21 10d23
10ec3-10ec4 10ec6-10ec7 10f30-10f32 10f34-10f44 10f51-10f53 10f70-10f73 10f76-10f81 10fb0
10fb2-10fb3 10fb8 10fbb-10fbc 10fbe-10fbf 10fc1 10fc4 10fca 1e922-1e943"

/-- The letters that join with the letter behind them only. -/
def forward : CodePoints := .ofTable "a872 10acd 10ad7 10d00 10fcb"

/-- The letters that join with the letter in front of them only. -/
def backward : CodePoints := .ofTable "622-625 627 629 62f-632 648 671-673 688-699 6c0 6c3-6cb 6cd 6cf 6d2-6d3 6d5 6ee-6ef 710 715-719
71e 728 72a 72c 72f 74d 759-75b 76b-76c 771 773-774 778-779 840 846-847 849 854 856-858 867
869-882 88e 8aa-8ac 8ae 8b1-8b2 8b9 10ac5 10ac7 10ac9-10aca 10ace-10ad2 10add 10ae1 10ae4 10aef
10b81 10b83-10b85 10b89 10b8c 10b8e-10b8f 10b91 10ba9-10bac 10d22 10ec2 10f33 10f54 10f74-10f75
10fb4-10fb6 10fb9-10fba 10fbd 10fc2-10fc3 10fc9"

/-- Whether a character does not matter for joining. -/
def isTransparent (c : Char) : Bool := nonspacingMarks.contains c || c.toNat = 0x1e94b

/-- Whether the first character that matters is in one of two sets. -/
def meets (a b : CodePoints) (cs : List Char) : Bool :=
  match cs.find? fun c => !isTransparent c with
  | some c => a.contains c || b.contains c
  | none => false

/-- Whether all joiners of a label may stand where they do; `before` holds the characters that have
been passed, the last one first. -/
def areSensible (before : List Char) : List Char → Bool
  | [] => true
  | c :: rest =>
    let isBehindKiller := (before.head?.map vowelKillers.contains).getD false
    let isSensible :=
      if c = '\u200d' then isBehindKiller
      else if c = '\u200c' then
        isBehindKiller || (meets forward dual before && meets backward dual rest)
      else true
    isSensible && areSensible (c :: before) rest

end IngressControl.Joiner
