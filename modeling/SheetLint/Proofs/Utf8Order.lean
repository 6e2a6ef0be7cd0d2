/-!
# Texts by their bytes

Texts are compared by their characters, and their bytes in UTF-8 are in the same order
(`utf8_lt_iff`): the first byte of a character grows with the number of bytes, and the bytes of one
length hold the code point from its highest bits down.
-/

namespace SheetLint.Text
set_option autoImplicit false

/-- The bytes of a text in UTF-8. -/
def utf8 (s : String) : List UInt8 := s.toUTF8.data.toList

theorem utf8_eq (s : String) : utf8 s = s.toList.flatMap String.utf8EncodeChar := by
  have bytes : (String.ofList s.toList).toByteArray = s.toList.utf8Encode := String.toByteArray_ofList
  rw [String.ofList_toList] at bytes
  rw [utf8, String.toUTF8_eq_toByteArray, bytes, List.utf8Encode, List.toList_data_toByteArray]

/-- The last `k` bytes of a code point: six bits in each, the highest first. -/
def followers : Nat → Nat → List UInt8
  | 0, _ => []
  | k + 1, v => followers k (v / 64) ++ [UInt8.ofNat (v % 64 + 128)]

/-- What is left of a code point without the bits of its last `k` bytes. -/
def leading : Nat → Nat → Nat
  | 0, v => v
  | k + 1, v => leading k (v / 64)

/-- What marks the first byte of a code point that `k` bytes follow. -/
def leadMark : Nat → Nat
  | 0 => 0
  | 1 => 192
  | 2 => 224
  | _ => 240

/-- A code point that is written with a first byte and `k` more. -/
inductive TakesMore : Nat → Nat → Prop where
  | none {v : Nat} (high : v < 0x80) : TakesMore 0 v
  | one {v : Nat} (low : 0x80 ≤ v) (high : v < 0x800) : TakesMore 1 v
  | two {v : Nat} (low : 0x800 ≤ v) (high : v < 0x10000) : TakesMore 2 v
  | three {v : Nat} (low : 0x10000 ≤ v) (high : v < 0x110000) : TakesMore 3 v

theorem utf8EncodeChar_eq (c : Char) :
    ∃ k, TakesMore k c.toNat ∧
      String.utf8EncodeChar c = UInt8.ofNat (leading k c.toNat + leadMark k) :: followers k c.toNat := by
  have bound : c.toNat < 0x110000 := by
    have valid := c.valid
    simp only [UInt32.isValidChar, Nat.isValidChar] at valid
    simp only [Char.toNat]
    omega
  rw [String.utf8EncodeChar, show c.val.toNat = c.toNat from rfl]
  generalize c.toNat = v at bound ⊢
  by_cases one : v < 0x80
  · refine ⟨0, .none one, ?_⟩
    simp [show v ≤ 127 by omega, leading, leadMark, followers]
  by_cases two : v < 0x800
  · refine ⟨1, .one (by omega) two, ?_⟩
    simp [show ¬ v ≤ 127 by omega, show v ≤ 2047 by omega, show v / 64 % 32 = v / 64 by omega, leading,
      leadMark, followers]
  by_cases three : v < 0x10000
  · refine ⟨2, .two (by omega) three, ?_⟩
    simp [show ¬ v ≤ 127 by omega, show ¬ v ≤ 2047 by omega, show v ≤ 65535 by omega,
      show v / 4096 % 16 = v / 4096 by omega, leading, leadMark, followers, Nat.div_div_eq_div_mul]
  · refine ⟨3, .three (by omega) bound, ?_⟩
    simp [show ¬ v ≤ 127 by omega, show ¬ v ≤ 2047 by omega, show ¬ v ≤ 65535 by omega,
      show v / 262144 % 8 = v / 262144 by omega, leading, leadMark, followers, Nat.div_div_eq_div_mul]

theorem ofNat_lt_ofNat {a b : Nat} (less : a < b) (bound : b < 256) : UInt8.ofNat a < UInt8.ofNat b := by
  rw [UInt8.lt_iff_toNat_lt, UInt8.toNat_ofNat', UInt8.toNat_ofNat']
  omega

/-- Of two code points with the same bits above their last `k` bytes, the smaller has the smaller bytes. -/
theorem followers_append_lt {k m n : Nat} (less : m < n) (above : leading k m = leading k n) (xs ys : List UInt8) :
    followers k m ++ xs < followers k n ++ ys := by
  induction k generalizing m n xs ys with
  | zero =>
    rw [leading, leading] at above
    omega
  | succ k ih =>
    simp only [followers, List.append_assoc, List.singleton_append]
    rcases Nat.lt_or_ge (m / 64) (n / 64) with higher | same
    · exact ih higher above _ _
    · have equal : m / 64 = n / 64 := by omega
      rw [equal]
      apply List.append_left_lt
      rw [List.cons_lt_cons_iff]
      exact Or.inl (ofNat_lt_ofNat (by omega) (by omega))

theorem leading_mono {k m n : Nat} (below : m ≤ n) : leading k m ≤ leading k n := by
  induction k generalizing m n with
  | zero => exact below
  | succ k ih => exact ih (Nat.div_le_div_right below)

/-- More bytes mean a larger first byte. -/
theorem lead_lt_lead {k l m n : Nat} (at_m : TakesMore k m) (at_n : TakesMore l n) (fewer : k < l) :
    leading k m + leadMark k < leading l n + leadMark l := by
  cases at_m <;> cases at_n <;> simp only [leading, leadMark] <;> omega

theorem lead_lt {k v : Nat} (takes : TakesMore k v) : leading k v + leadMark k < 256 := by
  cases takes <;> simp only [leading, leadMark] <;> omega

theorem TakesMore.mono {k l m n : Nat} (at_m : TakesMore k m) (at_n : TakesMore l n) (less : m < n) : k ≤ l := by
  cases at_m <;> cases at_n <;> omega

/-- The character with the smaller code point has the smaller bytes, whatever follows them. -/
theorem utf8EncodeChar_append_lt {c d : Char} (less : c < d) (xs ys : List UInt8) :
    String.utf8EncodeChar c ++ xs < String.utf8EncodeChar d ++ ys := by
  have codes : c.toNat < d.toNat := less
  obtain ⟨k, at_c, bytes⟩ := utf8EncodeChar_eq c
  obtain ⟨l, at_d, bytes'⟩ := utf8EncodeChar_eq d
  rw [bytes, bytes', List.cons_append, List.cons_append, List.cons_lt_cons_iff]
  rcases Nat.lt_or_eq_of_le (at_c.mono at_d codes) with fewer | rfl
  · exact Or.inl (ofNat_lt_ofNat (lead_lt_lead at_c at_d fewer) (lead_lt at_d))
  · rcases Nat.lt_or_eq_of_le (leading_mono (k := k) (Nat.le_of_lt codes)) with higher | above
    · exact Or.inl (ofNat_lt_ofNat (Nat.add_lt_add_right higher _) (lead_lt at_d))
    · exact Or.inr ⟨by rw [above], followers_append_lt codes above xs ys⟩

theorem flatMap_utf8EncodeChar_lt {cs ds : List Char} (less : cs < ds) :
    cs.flatMap String.utf8EncodeChar < ds.flatMap String.utf8EncodeChar := by
  induction less with
  | @nil d ds =>
    obtain ⟨k, -, bytes⟩ := utf8EncodeChar_eq d
    rw [List.flatMap_nil, List.flatMap_cons, bytes, List.cons_append]
    exact List.nil_lt_cons ..
  | rel less => exact utf8EncodeChar_append_lt less _ _
  | cons _ ih => exact List.append_left_lt ih

/-- **The order of texts by their bytes is that by their characters.** -/
theorem utf8_lt_iff {a b : String} : utf8 a < utf8 b ↔ a < b := by
  have forth {a b : String} (less : a < b) : utf8 a < utf8 b := by
    rw [utf8_eq, utf8_eq]
    exact flatMap_utf8EncodeChar_lt (String.lt_iff.1 less)
  refine ⟨fun less => String.not_le.1 fun back => ?_, forth⟩
  by_cases above : b < a
  · exact List.lt_asymm less (forth above)
  · have equal : a = b := String.le_antisymm (String.not_lt.1 above) back
    rw [equal] at less
    exact List.lt_irrefl _ less

end SheetLint.Text
