import OrderDesk.Json.Parser

/-!
# Strings that are written and read

Every character is written as a piece that stands for it (`exists_piece`), so a text between quotes
is read as that text, up to the closing quote and no further (`string?_renderString`).
-/

namespace OrderDesk.JsonValue

open OrderDesk.Text

/-! ## Escapes -/

theorem hexValue?_hexChar : ∀ d : Fin 16, hexValue? (hexChar d.val) = some d.val := by decide

/-- Four digits denote the unit that they were written for. -/
theorem exists_hexDigits_eq {n : Nat} (h : n < 0x10000) :
    ∃ a b c d, hexDigits 4 n = [a, b, c, d] ∧ fourHex? a b c d = some n := by
  refine ⟨_, _, _, _, rfl, ?_⟩
  have hdigit (k : Nat) : hexValue? (hexChar (k % 16)) = some (k % 16) :=
    hexValue?_hexChar ⟨k % 16, Nat.mod_lt _ (by decide)⟩
  simp only [fourHex?, hdigit, Option.bind_eq_bind, Option.bind_some, Option.some.injEq]
  omega

/-- What is read when a piece is in front. -/
def withPiece (piece : Piece) (read : Option (List Piece × List Char)) :
    Option (List Piece × List Char) :=
  read.map fun (pieces, rest) => (piece :: pieces, rest)

variable {c d : Char} {rest : List Char}

theorem pieces?_numeric {e f : Char} {n : Nat} (h : fourHex? c d e f = some n) :
    pieces? ('\\' :: 'u' :: c :: d :: e :: f :: rest) = withPiece (.unit n) (pieces? rest) := by
  rw [pieces?, h]
  cases pieces? rest <;> rfl

theorem pieces?_letter (h : letterEscape? c = some d) :
    pieces? ('\\' :: c :: rest) = withPiece (.char d) (pieces? rest) := by
  have hletter : c ≠ 'u' := by
    rintro rfl
    cases h
  rw [pieces?, h]
  · cases pieces? rest <;> rfl
  · intro _ _ _ _ _ hnumeric
    exact absurd hnumeric hletter

theorem pieces?_plain (hquote : c ≠ '"') (hslash : c ≠ '\\') (hcontrol : ¬ c.toNat < 32) :
    pieces? (c :: rest) = withPiece (.char c) (pieces? rest) := by
  rw [pieces?, if_neg hcontrol]
  · cases pieces? rest <;> rfl
  · exact hquote
  · intro _ _ _ _ _ hescape
    exact absurd hescape hslash
  · intro _ _ hescape
    exact absurd hescape hslash

/-! ## Characters -/

/-- Which piece stands for a character. A unit that is no half of a pair stands for itself. -/
inductive StandsFor : Piece → Char → Prop where
  | char (c : Char) : StandsFor (.char c) c
  | unit (c : Char) (h : c.toNat < 0xD800) : StandsFor (.unit c.toNat) c

theorem assemble?_cons {piece : Piece} {pieces : List Piece} (h : StandsFor piece c) :
    assemble? (piece :: pieces) = (assemble? pieces).map (c :: ·) := by
  cases h with
  | char => rfl
  | unit _ hlow =>
    have hhigh : isHighHalf c.toNat = false := by
      simp [isHighHalf]
      omega
    have hlow : isLowHalf c.toNat = false := by
      simp [isLowHalf]
      omega
    rw [assemble?.eq_def (.unit c.toNat :: pieces)]
    simp only [hhigh, hlow, Bool.false_eq_true, ↓reduceIte, Char.ofNat_toNat]

/-- How a character is written: behind a backslash as a letter that stands for it, by its number
if it is another control character, or as it is. -/
inductive Escaped (c : Char) : List Char → Prop where
  | letter {l : Char} (h : letterEscape? l = some c) : Escaped c ['\\', l]
  | numeric (h : c.toNat < 32) : Escaped c ('\\' :: 'u' :: hexDigits 4 c.toNat)
  | plain (hquote : c ≠ '"') (hslash : c ≠ '\\') (hcontrol : ¬ c.toNat < 32) : Escaped c [c]

theorem escaped_escapeChar (c : Char) : Escaped c (escapeChar c) := by
  unfold escapeChar
  split
  · next h =>
    subst h
    exact .letter rfl
  split
  · next h =>
    subst h
    exact .letter rfl
  split
  · next h =>
    subst h
    exact .letter rfl
  split
  · next h =>
    subst h
    exact .letter rfl
  split
  · next h =>
    subst h
    exact .letter rfl
  split
  · next h =>
    have hbackspace : c = '\x08' := Char.toNat_inj.1 h
    exact hbackspace ▸ .letter rfl
  split
  · next h =>
    have hfeed : c = '\x0c' := Char.toNat_inj.1 h
    exact hfeed ▸ .letter rfl
  split
  · next h => exact .numeric h
  · next hquote hslash _ _ _ _ _ hcontrol => exact .plain hquote hslash hcontrol

/-- A character is written as a piece that stands for it. -/
theorem exists_piece (c : Char) : ∃ piece, StandsFor piece c ∧
    ∀ rest, pieces? (escapeChar c ++ rest) = withPiece piece (pieces? rest) := by
  have hescaped := escaped_escapeChar c
  generalize escapeChar c = written at hescaped
  cases hescaped with
  | letter h => exact ⟨_, .char c, fun rest => pieces?_letter h⟩
  | numeric h =>
    have hunit : c.toNat < 0x10000 := by omega
    obtain ⟨d, e, f, g, hdigits, hvalue⟩ := exists_hexDigits_eq hunit
    rw [hdigits]
    exact ⟨_, .unit c (by omega), fun rest => pieces?_numeric hvalue⟩
  | plain hquote hslash hcontrol =>
    exact ⟨_, .char c, fun rest => pieces?_plain hquote hslash hcontrol⟩

theorem exists_pieces (cs rest : List Char) : ∃ pieces,
    pieces? (cs.flatMap escapeChar ++ '"' :: rest) = some (pieces, rest) ∧
      assemble? pieces = some cs := by
  induction cs with
  | nil => exact ⟨[], rfl, rfl⟩
  | cons c cs ih =>
    obtain ⟨piece, hstands, hpiece⟩ := exists_piece c
    obtain ⟨pieces, hpieces, hcs⟩ := ih
    refine ⟨piece :: pieces, ?_, ?_⟩
    · rw [List.flatMap_cons, List.append_assoc, hpiece, hpieces]
      rfl
    · rw [assemble?_cons hstands, hcs]
      rfl

/-- A text between quotes is read as that text, whatever follows. -/
theorem string?_renderString (s : String) (rest : List Char) :
    ∃ body, renderString s.toList ++ rest = '"' :: body ∧ string? body = some (some s, rest) := by
  obtain ⟨pieces, hpieces, hcs⟩ := exists_pieces s.toList rest
  refine ⟨s.toList.flatMap escapeChar ++ '"' :: rest, ?_, ?_⟩
  · simp [renderString]
  · simp only [string?, hpieces, Option.map_some, hcs, String.ofList_toList]

end OrderDesk.JsonValue
