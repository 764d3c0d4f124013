import OrderDesk.Text.CaseTable

/-!
# Lower case

The full lower-case mapping of a text: every character by the table, the dotted capital I to two
characters, and the capital sigma by its place in the word.
-/

namespace OrderDesk.Text

/-- Whether a code point lies in one of the ranges. -/
def inRanges (ranges : List (Nat × Nat)) (n : Nat) : Bool :=
  ranges.any fun r => decide (r.1 ≤ n) && decide (n ≤ r.2)

/-- Whether a run of the table covers a code point. -/
def CaseRun.covers (run : CaseRun) (n : Nat) : Bool :=
  decide (run.1 ≤ n) && decide (n ≤ run.2.1) && (n - run.1) % run.2.2.1 == 0

/-- The lower case of a character on its own. -/
def lowerOf (c : Char) : List Char :=
  if c.toNat = 0x130 then ['i', Char.ofNat 0x307]
  else match caseRuns.find? (·.covers c.toNat) with
    | some run => [Char.ofNat (c.toNat + run.2.2.2).toNat]
    | none => [c]

/-- Whether the first character that case does not ignore is a cased one. -/
def startsCased (cs : List Char) : Bool :=
  match cs.dropWhile (fun c => inRanges caseIgnorableRanges c.toNat) with
  | [] => false
  | c :: _ => inRanges casedRanges c.toNat

/-- The lower case of a text, `before` being what stands in front of it in reverse. A capital sigma
that ends a word becomes the final sigma. -/
def lowerFrom (before : List Char) : List Char → List Char
  | [] => []
  | c :: rest =>
    let lowered :=
      if c = 'Σ' then [if startsCased before && !startsCased rest then 'ς' else 'σ'] else lowerOf c
    lowered ++ lowerFrom (c :: before) rest

def lowerCase (cs : List Char) : List Char :=
  lowerFrom [] cs

@[simp] theorem lowerCase_nil : lowerCase [] = [] := rfl

end OrderDesk.Text
