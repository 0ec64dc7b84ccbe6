import CronCalendar.Text.NameMap

/-!
# The order of texts and of their bytes

Texts are ordered by their characters. Characters are encoded in UTF-8 so that a greater one has the
greater bytes: it has more of them, which the first byte shows, or as many, and then they are its
digits of six bits each from the most significant on (`encodeChar_lt`). So texts come in the order of
their bytes (`bytes_lt_iff`).
-/

namespace CronCalendar.Text
set_option autoImplicit false

/-- The bytes of a text in UTF-8. -/
def bytes (s : String) : List UInt8 := s.toUTF8.data.toList

theorem bytes_eq (s : String) : bytes s = s.toList.flatMap String.utf8EncodeChar := by
  rw [bytes, String.toUTF8_eq_toByteArray, ← String.utf8Encode_toList, List.utf8Encode]
  simp

variable {m n : Nat} {x y : List UInt8}

theorem byte_cons_lt {a b : Nat} (ha : a < 256) (hb : b < 256) (h : a < b ∨ a = b ∧ x < y) :
    UInt8.ofNat a :: x < UInt8.ofNat b :: y := by
  rw [List.cons_lt_cons_iff, UInt8.lt_iff_toNat_lt, UInt8.toNat_ofNat', UInt8.toNat_ofNat',
    Nat.mod_eq_of_lt ha, Nat.mod_eq_of_lt hb]
  exact h.imp_right fun h => ⟨congrArg _ h.1, h.2⟩

theorem last_byte_lt (high : m / 64 = n / 64) (lt : m < n) :
    UInt8.ofNat (m % 64 + 128) :: x < UInt8.ofNat (n % 64 + 128) :: y :=
  byte_cons_lt (by omega) (by omega) (.inl (by omega))

theorem last_two_bytes_lt (high : m / 4096 = n / 4096) (lt : m < n) :
    UInt8.ofNat (m / 64 % 64 + 128) :: UInt8.ofNat (m % 64 + 128) :: x <
      UInt8.ofNat (n / 64 % 64 + 128) :: UInt8.ofNat (n % 64 + 128) :: y := by
  refine byte_cons_lt (by omega) (by omega) ?_
  rcases Nat.lt_or_ge (m / 64) (n / 64) with less | notLess
  · exact .inl (by omega)
  · exact .inr ⟨by omega, last_byte_lt (by omega) lt⟩

theorem last_three_bytes_lt (high : m / 262144 = n / 262144) (lt : m < n) :
    UInt8.ofNat (m / 4096 % 64 + 128) :: UInt8.ofNat (m / 64 % 64 + 128) ::
        UInt8.ofNat (m % 64 + 128) :: x <
      UInt8.ofNat (n / 4096 % 64 + 128) :: UInt8.ofNat (n / 64 % 64 + 128) ::
        UInt8.ofNat (n % 64 + 128) :: y := by
  refine byte_cons_lt (by omega) (by omega) ?_
  rcases Nat.lt_or_ge (m / 4096) (n / 4096) with less | notLess
  · exact .inl (by omega)
  · exact .inr ⟨by omega, last_two_bytes_lt (by omega) lt⟩

/-- The bytes of a smaller character come before those of a greater one, whatever follows them. -/
theorem encodeChar_lt {c d : Char} (lt : c < d) (x y : List UInt8) :
    String.utf8EncodeChar c ++ x < String.utf8EncodeChar d ++ y := by
  have limit : d.val.toNat < 1114112 := by
    have valid := d.valid
    simp only [UInt32.isValidChar, Nat.isValidChar] at valid
    omega
  have lt : c.val.toNat < d.val.toNat := lt
  unfold String.utf8EncodeChar
  generalize c.val.toNat = m at *
  generalize d.val.toNat = n at *
  -- The first byte is greater if it counts more bytes or has greater bits.
  have first {a b : Nat} {x y : List UInt8} (h : a < b) (hb : b < 256) :
      UInt8.ofNat a :: x < UInt8.ofNat b :: y := byte_cons_lt (by omega) hb (.inl h)
  dsimp only
  repeat' split
  all_goals simp only [List.cons_append, List.nil_append]
  all_goals try first | omega | exact first (by omega) (by omega)
  · rcases Nat.lt_or_ge (m / 64) (n / 64) with less | notLess
    · exact first (by omega) (by omega)
    · exact byte_cons_lt (by omega) (by omega) (.inr ⟨by omega, last_byte_lt (by omega) lt⟩)
  · rcases Nat.lt_or_ge (m / 4096) (n / 4096) with less | notLess
    · exact first (by omega) (by omega)
    · exact byte_cons_lt (by omega) (by omega) (.inr ⟨by omega, last_two_bytes_lt (by omega) lt⟩)
  · rcases Nat.lt_or_ge (m / 262144) (n / 262144) with less | notLess
    · exact first (by omega) (by omega)
    · exact byte_cons_lt (by omega) (by omega) (.inr ⟨by omega, last_three_bytes_lt (by omega) lt⟩)

theorem encodeChars_lt {cs ds : List Char} (lt : cs < ds) :
    cs.flatMap String.utf8EncodeChar < ds.flatMap String.utf8EncodeChar := by
  induction lt with
  | @nil d ds =>
    rw [List.flatMap_nil, List.flatMap_cons]
    have some : String.utf8EncodeChar d ≠ [] := String.utf8EncodeChar_ne_nil
    obtain ⟨b, bs, eq⟩ := List.exists_cons_of_ne_nil some
    rw [eq]
    exact List.nil_lt_cons _ _
  | rel lt =>
    rw [List.flatMap_cons, List.flatMap_cons]
    exact encodeChar_lt lt _ _
  | cons _ ih =>
    rw [List.flatMap_cons, List.flatMap_cons]
    exact List.append_left_lt ih

/-- Texts come in the order of their bytes. -/
theorem bytes_lt_iff {s t : String} : bytes s < bytes t ↔ s < t := by
  have mono {s t : String} (lt : s < t) : bytes s < bytes t := by
    rw [bytes_eq, bytes_eq]
    exact encodeChars_lt (String.lt_iff.1 lt)
  refine ⟨fun lt => ?_, mono⟩
  by_cases less : s < t
  · exact less
  · by_cases eq : s = t
    · exact absurd (eq ▸ lt) (List.lt_irrefl _)
    · exact absurd (mono (NameMap.lt_of_not_lt_of_ne less eq)) (List.lt_asymm lt)

end CronCalendar.Text
