import Vicinity.Json.Printer
import Vicinity.Json.Reader

/-!
Every string that is written between quotes is read back as itself.
-/

namespace Vicinity.Json

/-- What the escape of a character is read as. -/
def pieceOf (c : Char) : Piece :=
  if c = '\n' ∨ c = '\r' ∨ c = '\t' ∨ c = '\x08' ∨ c = '\x0c' then .char c
  else if c.toNat < 0x20 then .unit c.toNat
  else .char c

theorem hexValue?_hexDigit {n : Nat} (h : n < 16) : hexValue? (hexDigit n) = some n := by
  have hall : ∀ n < 16, hexValue? (hexDigit n) = some n := by decide
  exact hall n h

theorem unit?_hexDigits {n : Nat} (h : n < 0x20) :
    unit? '0' '0' (hexDigit (n / 16)) (hexDigit (n % 16)) = some n := by
  have hzero : hexValue? '0' = some 0 := by decide
  simp only [unit?, hzero, hexValue?_hexDigit (show n / 16 < 16 by omega),
    hexValue?_hexDigit (show n % 16 < 16 by omega), Option.bind_eq_bind, Option.bind_some]
  exact congrArg some (by omega)

/-- A character as it stands is read as itself. -/
theorem readPieces_plain {c : Char} (hquote : c ≠ '"') (hslash : c ≠ '\\') (hlow : 0x20 ≤ c.toNat)
    (read : List Piece) (rest : List Char) :
    readPieces read (c :: rest) = readPieces (.char c :: read) rest := by
  have hspace : ¬ c < ' ' := by
    rw [Char.lt_def, UInt32.lt_iff_toNat_lt]
    exact Nat.not_lt.mpr hlow
  rw [readPieces.eq_def]
  simp [hquote, hslash, hspace]

theorem readPieces_escapeChar (c : Char) (read : List Piece) (rest : List Char) :
    readPieces read (escapeChar c ++ rest) = readPieces (pieceOf c :: read) rest := by
  unfold escapeChar
  split
  · subst_vars
    simp [readPieces, shortEscape?, pieceOf]
  split
  · subst_vars
    simp [readPieces, shortEscape?, pieceOf]
  split
  · subst_vars
    simp [readPieces, shortEscape?, pieceOf]
  split
  · subst_vars
    simp [readPieces, shortEscape?, pieceOf]
  split
  · subst_vars
    simp [readPieces, shortEscape?, pieceOf]
  split
  · subst_vars
    simp [readPieces, shortEscape?, pieceOf]
  split
  · subst_vars
    simp [readPieces, shortEscape?, pieceOf]
  rename_i hquote hslash hn hr ht hb hf
  have hpiece : pieceOf c = if c.toNat < 0x20 then .unit c.toNat else .char c := by
    simp [pieceOf, hn, hr, ht, hb, hf]
  rw [hpiece]
  split
  · rename_i hlow
    simp [readPieces, unit?_hexDigits hlow]
  · rename_i hlow
    exact readPieces_plain hquote hslash (by omega) read rest

theorem readPieces_escaped (cs : List Char) (read : List Piece) (rest : List Char) :
    readPieces read (cs.flatMap escapeChar ++ '"' :: rest) =
      some (read.reverse ++ cs.map pieceOf, rest) := by
  induction cs generalizing read with
  | nil =>
      rw [List.flatMap_nil, List.nil_append, readPieces.eq_def]
      simp
  | cons c cs ih =>
      rw [List.flatMap_cons, List.append_assoc, readPieces_escapeChar, ih]
      simp

theorem joinPieces_pieceOf (cs joined : List Char) :
    joinPieces joined (cs.map pieceOf) = some (joined.reverse ++ cs) := by
  induction cs generalizing joined with
  | nil => simp [joinPieces]
  | cons c cs ih =>
      have hstep : joinPieces joined ((c :: cs).map pieceOf) =
          joinPieces (c :: joined) (cs.map pieceOf) := by
        rw [List.map_cons, pieceOf]
        split
        · rfl
        · split
          · rename_i hlow
            have hhigh : isHighSurrogate c.toNat = false := by
              simp only [isHighSurrogate, Bool.and_eq_false_iff, decide_eq_false_iff_not]
              omega
            have hlower : isLowSurrogate c.toNat = false := by
              simp only [isLowSurrogate, Bool.and_eq_false_iff, decide_eq_false_iff_not]
              omega
            rw [joinPieces.eq_def]
            simp [hhigh, hlower]
          · rfl
      rw [hstep, ih]
      simp

/-- A string between quotes is read as itself, whatever follows it. -/
theorem readString_stringText (s : String) (rest : List Char) :
    readString (s.toList.flatMap escapeChar ++ '"' :: rest) = some (some s, rest) := by
  unfold readString
  rw [readPieces_escaped]
  simp [joinPieces_pieceOf]

end Vicinity.Json
