import Promptuary.Text.Case

/-!
Comparing characters without regard to case. `Folding` says how far case is ignored: not at all, for
the letters of ASCII, or for those of every script. Two characters are alike when they have the same
small letter, or small letters that are variants of each other.
-/

namespace Promptuary.Text

/-- The characters whose capital form does not begin with the first of the capitals that have them
as their small letter, and how far that beginning lies away. -/
def strayCapitalRuns : Array CaseRun := #[
  ⟨181, 181, 1, 743⟩, ⟨223, 223, 1, -140⟩, ⟨305, 305, 1, -232⟩, ⟨329, 329, 1, 371⟩,
  ⟨383, 383, 1, -300⟩, ⟨453, 453, 1, -1⟩, ⟨456, 456, 1, -1⟩, ⟨459, 459, 1, -1⟩,
  ⟨496, 496, 1, -422⟩, ⟨498, 498, 1, -1⟩, ⟨837, 837, 1, 84⟩, ⟨912, 912, 1, 9⟩, ⟨944, 944, 1, -11⟩,
  ⟨962, 962, 1, -31⟩, ⟨976, 976, 1, -62⟩, ⟨977, 977, 1, -57⟩, ⟨981, 981, 1, -47⟩,
  ⟨982, 982, 1, -54⟩, ⟨1008, 1008, 1, -86⟩, ⟨1009, 1009, 1, -80⟩, ⟨1013, 1013, 1, -96⟩,
  ⟨1415, 1415, 1, -82⟩, ⟨7296, 7296, 1, -6254⟩, ⟨7297, 7297, 1, -6253⟩, ⟨7298, 7298, 1, -6244⟩,
  ⟨7299, 7300, 1, -6242⟩, ⟨7301, 7301, 1, -6243⟩, ⟨7302, 7302, 1, -6236⟩, ⟨7303, 7303, 1, -6181⟩,
  ⟨7304, 7304, 1, 35266⟩, ⟨7830, 7830, 1, -7758⟩, ⟨7831, 7831, 1, -7747⟩, ⟨7832, 7832, 1, -7745⟩,
  ⟨7833, 7833, 1, -7744⟩, ⟨7834, 7834, 1, -7769⟩, ⟨7835, 7835, 1, -59⟩, ⟨8016, 8016, 1, -7083⟩,
  ⟨8018, 8018, 1, -7085⟩, ⟨8020, 8020, 1, -7087⟩, ⟨8022, 8022, 1, -7089⟩, ⟨8064, 8071, 1, -120⟩,
  ⟨8072, 8079, 1, -128⟩, ⟨8080, 8087, 1, -104⟩, ⟨8088, 8095, 1, -112⟩, ⟨8096, 8103, 1, -56⟩,
  ⟨8104, 8111, 1, -64⟩, ⟨8114, 8114, 1, 8⟩, ⟨8115, 8115, 1, -7202⟩, ⟨8116, 8116, 1, -7214⟩,
  ⟨8118, 8118, 1, -7205⟩, ⟨8119, 8119, 1, -7206⟩, ⟨8124, 8124, 1, -7211⟩, ⟨8126, 8126, 1, -7205⟩,
  ⟨8130, 8130, 1, 8⟩, ⟨8131, 8131, 1, -7212⟩, ⟨8132, 8132, 1, -7227⟩, ⟨8134, 8134, 1, -7215⟩,
  ⟨8135, 8135, 1, -7216⟩, ⟨8140, 8140, 1, -7221⟩, ⟨8146, 8146, 1, -7225⟩, ⟨8147, 8147, 1, -7226⟩,
  ⟨8150, 8150, 1, -7229⟩, ⟨8151, 8151, 1, -7230⟩, ⟨8162, 8162, 1, -7229⟩, ⟨8163, 8163, 1, -7230⟩,
  ⟨8164, 8164, 1, -7235⟩, ⟨8166, 8166, 1, -7233⟩, ⟨8167, 8167, 1, -7234⟩, ⟨8178, 8178, 1, 8⟩,
  ⟨8179, 8179, 1, -7242⟩, ⟨8180, 8180, 1, -7269⟩, ⟨8182, 8182, 1, -7245⟩, ⟨8183, 8183, 1, -7246⟩,
  ⟨8188, 8188, 1, -7251⟩, ⟨64256, 64256, 1, -64186⟩, ⟨64257, 64257, 1, -64187⟩,
  ⟨64258, 64258, 1, -64188⟩, ⟨64259, 64259, 1, -64189⟩, ⟨64260, 64260, 1, -64190⟩,
  ⟨64261, 64261, 1, -64178⟩, ⟨64262, 64262, 1, -64179⟩, ⟨64275, 64275, 1, -62927⟩,
  ⟨64276, 64276, 1, -62928⟩, ⟨64277, 64277, 1, -62929⟩, ⟨64278, 64278, 1, -62920⟩,
  ⟨64279, 64279, 1, -62931⟩]

/-- Where a run takes a code point. -/
def CaseRun.target? (run : CaseRun) (n : Nat) : Option Char :=
  if run.first ≤ n && n ≤ run.last && (n - run.first) % run.step = 0 then
    some (Char.ofNat (n + run.shift).toNat)
  else none

/-- The capitals whose small letter is a character, in increasing order. -/
def capitalsOf (c : Char) : List Char :=
  let ascii := if c.isLower then [c.toUpper] else []
  ascii ++ capitalRuns.toList.filterMap fun run =>
    let d := Char.ofNat ((c.toNat : Int) - run.shift).toNat
    if run.target? d.toNat = some c && lowerChar d = c then some d else none

/-- The first character of the capital form of a character. -/
def capitalOf (c : Char) : Char :=
  match strayCapitalRuns.toList.findSome? (·.target? c.toNat) with
  | some d => d
  | none => (capitalsOf c).headD c

/-- How far case is ignored. -/
inductive Folding where
  | exact | ascii | full
deriving DecidableEq

namespace Folding

/-- The small letter that stands for a character. -/
def small (f : Folding) (c : Char) : Char :=
  match f with
  | exact => c
  | ascii => c.toLower
  | full => lowerChar c

/-- The further small letters that count as a given one. -/
def variants (f : Folding) (c : Char) : List Char :=
  match f with
  | exact | ascii => []
  | full => caseVariants c

/-- Whether two characters are alike. -/
def alike (f : Folding) (c d : Char) : Bool :=
  let c := f.small c
  let d := f.small d
  c = d || (f.variants c).contains d

/-- Whether a character has case. -/
def isCased (f : Folding) (c : Char) : Bool :=
  match f with
  | exact => false
  | ascii => c.isAlpha
  | full => lowerChar c ≠ c || capitalOf c ≠ c

/-- The characters that are alike to a small letter. -/
def forms (f : Folding) (c : Char) : List Char :=
  match f with
  | exact => [c]
  | ascii => if c.isLower then [c, c.toUpper] else [c]
  | full => (c :: caseVariants c).flatMap fun d => d :: capitalsOf d

end Folding

end Promptuary.Text
