import WorkspaceLink.Text.Percent

/-!
# Reading percent encoding back

A percent sign with two hexadecimal digits stands for a byte, every other character for itself, and
the bytes together are the UTF-8 form of a text. What the encoder writes consists of unreserved
characters and such escapes only, and is read back as the text that was encoded.
-/
namespace WorkspaceLink.Text

/-! ### Decoding -/

/-- The value of a hexadecimal digit, in upper or lower case. -/
def hexValue? (c : Char) : Option Nat :=
  if '0' ≤ c ∧ c ≤ '9' then some (c.toNat - '0'.toNat)
  else if 'A' ≤ c ∧ c ≤ 'F' then some (c.toNat - 'A'.toNat + 10)
  else if 'a' ≤ c ∧ c ≤ 'f' then some (c.toNat - 'a'.toNat + 10)
  else none

/-- The bytes that a text with escapes stands for. A percent sign without two digits behind it
stands for itself. -/
def percentBytes : List Char → List UInt8
  | '%' :: high :: low :: rest =>
    match hexValue? high, hexValue? low with
    | some h, some l => UInt8.ofNat (16 * h + l) :: percentBytes rest
    | _, _ => String.utf8EncodeChar '%' ++ percentBytes (high :: low :: rest)
  | c :: rest => String.utf8EncodeChar c ++ percentBytes rest
  | [] => []

/-- The text that a text with escapes stands for, if its bytes are the UTF-8 form of one. -/
def percentDecode (s : String) : Option String :=
  String.fromUTF8? (percentBytes s.toList).toByteArray

/-- A digit of an escape. -/
def isUpperHex (c : Char) : Bool :=
  decide ('0' ≤ c ∧ c ≤ '9') || decide ('A' ≤ c ∧ c ≤ 'F')

/-- Unreserved characters, and percent signs with two digits, in any order. -/
inductive Escaped : List Char → Prop where
  | nil : Escaped []
  | kept {c : Char} {rest : List Char} (hc : isUnreserved c) (hrest : Escaped rest) :
      Escaped (c :: rest)
  | escape {high low : Char} {rest : List Char} (hhigh : isUpperHex high) (hlow : isUpperHex low)
      (hrest : Escaped rest) : Escaped ('%' :: high :: low :: rest)

/-! ### Characters -/

theorem isAlpha_iff {c : Char} : c.isAlpha ↔
    ('A'.val ≤ c.val ∧ c.val ≤ 'Z'.val) ∨ ('a'.val ≤ c.val ∧ c.val ≤ 'z'.val) := by
  change (decide (c.val ≥ 'A'.val ∧ c.val ≤ 'Z'.val) ||
    (decide (c.val ≥ 'a'.val) && decide (c.val ≤ 'z'.val))) = true ↔ _
  simp only [Bool.or_eq_true, Bool.and_eq_true, decide_eq_true_eq, ge_iff_le]

/-- An unreserved character is an ASCII character. -/
theorem isUnreserved_ascii {c : Char} (h : isUnreserved c) : c.toNat < 128 := by
  simp only [isUnreserved, Char.isAlphanum, isAlpha_iff, Char.isDigit, Bool.or_eq_true,
    Bool.and_eq_true, decide_eq_true_eq, UInt32.le_iff_toNat_le, ge_iff_le] at h
  change ((((((65 ≤ c.toNat ∧ c.toNat ≤ 90) ∨ (97 ≤ c.toNat ∧ c.toNat ≤ 122)) ∨
    (48 ≤ c.toNat ∧ c.toNat ≤ 57)) ∨ c = '-') ∨ c = '_') ∨ c = '.') ∨ c = '~' at h
  rcases h with (((h | rfl) | rfl) | rfl) | rfl
  · omega
  all_goals decide

theorem isUnreserved_of_isUpperHex {c : Char} (h : isUpperHex c) : isUnreserved c := by
  simp only [isUpperHex, Bool.or_eq_true, decide_eq_true_eq] at h
  simp only [isUnreserved, Char.isAlphanum, isAlpha_iff, Char.isDigit, Bool.or_eq_true,
    Bool.and_eq_true, decide_eq_true_eq]
  rcases h with ⟨hlow, hhigh⟩ | ⟨hlow, hhigh⟩
  · exact .inl (.inl (.inl (.inl (.inr ⟨hlow, hhigh⟩))))
  · have hupper : c.val ≤ 'Z'.val := UInt32.le_trans hhigh (by decide)
    exact .inl (.inl (.inl (.inl (.inl (.inl ⟨hlow, hupper⟩)))))

theorem hexValue?_upperHex : ∀ n < 16, hexValue? (upperHex n) = some n := by
  decide

theorem isUpperHex_upperHex : ∀ n < 16, isUpperHex (upperHex n) := by
  decide

theorem byteArray_toList (bs : ByteArray) : bs.toList = bs.data.toList := by
  have hloop : ∀ (i : Nat) (seen : List UInt8),
      ByteArray.toList.loop bs i seen = seen.reverse ++ bs.data.toList.drop i := by
    intro i seen
    fun_induction ByteArray.toList.loop bs i seen with
    | case1 i seen hi ih =>
      have hsize : i < bs.data.toList.length := hi
      have hget : bs.get! i = bs.data.toList[i] := by
        simp [ByteArray.get!, getElem!_pos bs.data i hi]
      rw [ih, hget, List.reverse_cons, List.append_assoc, List.singleton_append,
        List.getElem_cons_drop]
    | case2 i seen hi =>
      have hend : bs.data.toList.length ≤ i := Nat.not_lt.mp hi
      rw [List.drop_eq_nil_of_le hend, List.append_nil]
  exact hloop 0 []

/-- The bytes of one character, as the encoder takes them. -/
theorem toList_toUTF8_singleton (c : Char) :
    (String.singleton c).toUTF8.toList = String.utf8EncodeChar c := by
  have hbytes : (String.singleton c).toUTF8 = (String.utf8EncodeChar c).toByteArray :=
    String.toByteArray_singleton.trans List.utf8Encode_singleton
  rw [byteArray_toList, hbytes, List.toList_data_toByteArray]

/-! ### Reading back -/

theorem percentBytes_cons {c : Char} (h : c ≠ '%') (rest : List Char) :
    percentBytes (c :: rest) = String.utf8EncodeChar c ++ percentBytes rest := by
  rw [percentBytes]
  simp [h]

theorem percentBytes_percentByte (b : UInt8) (rest : List Char) :
    percentBytes (percentByte b ++ rest) = b :: percentBytes rest := by
  have hhigh : b.toNat / 16 < 16 := by have := b.toNat_lt; omega
  have hlow : b.toNat % 16 < 16 := Nat.mod_lt _ (by decide)
  have hdigits : 16 * (b.toNat / 16) + b.toNat % 16 = b.toNat := Nat.div_add_mod _ _
  simp only [percentByte, List.cons_append, List.nil_append, percentBytes,
    hexValue?_upperHex _ hhigh, hexValue?_upperHex _ hlow, hdigits, UInt8.ofNat_toNat]

theorem percentBytes_flatMap_percentByte (bs : List UInt8) (rest : List Char) :
    percentBytes (bs.flatMap percentByte ++ rest) = bs ++ percentBytes rest := by
  induction bs with
  | nil => rfl
  | cons b bs ih =>
    rw [List.flatMap_cons, List.append_assoc, percentBytes_percentByte, ih, List.cons_append]

/-- What is written for a character is read back as its bytes. -/
theorem percentBytes_percentChar (c : Char) (rest : List Char) :
    percentBytes (percentChar c ++ rest) = String.utf8EncodeChar c ++ percentBytes rest := by
  unfold percentChar
  split
  next hkept =>
    have hmark : c ≠ '%' := by
      rintro rfl
      exact absurd hkept (by decide)
    exact percentBytes_cons hmark rest
  next => rw [toList_toUTF8_singleton, percentBytes_flatMap_percentByte]

theorem percentBytes_percentEncode (cs : List Char) :
    percentBytes (cs.flatMap percentChar) = cs.flatMap String.utf8EncodeChar := by
  induction cs with
  | nil => rfl
  | cons c cs ih => rw [List.flatMap_cons, percentBytes_percentChar, ih, List.flatMap_cons]

/-- Decoding gives back the text that was encoded. -/
theorem percentDecode_percentEncode (s : String) : percentDecode (percentEncode s) = some s := by
  have hbytes : (percentBytes (percentEncode s).toList).toByteArray = s.toUTF8 := by
    rw [percentEncode, String.toList_ofList, percentBytes_percentEncode]
    exact String.utf8Encode_toList
  rw [percentDecode, hbytes]
  simp [String.fromUTF8?, String.fromUTF8, s.isValidUTF8]

theorem percentEncode_injective {s t : String} (h : percentEncode s = percentEncode t) : s = t := by
  have hdecoded := percentDecode_percentEncode s
  rw [h, percentDecode_percentEncode] at hdecoded
  exact (Option.some.inj hdecoded).symm

/-! ### The written form -/

theorem Escaped.append {first second : List Char} (hfirst : Escaped first)
    (hsecond : Escaped second) : Escaped (first ++ second) := by
  induction hfirst with
  | nil => exact hsecond
  | kept hc _ ih => exact .kept hc ih
  | escape hhigh hlow _ ih => exact .escape hhigh hlow ih

theorem escaped_percentByte (b : UInt8) : Escaped (percentByte b) := by
  refine .escape (isUpperHex_upperHex _ ?_) (isUpperHex_upperHex _ ?_) .nil
  · have := b.toNat_lt
    omega
  · exact Nat.mod_lt _ (by decide)

theorem escaped_flatMap {α : Type} {write : α → List Char} (h : ∀ a, Escaped (write a))
    (as : List α) : Escaped (as.flatMap write) := by
  induction as with
  | nil => exact .nil
  | cons a as ih => exact (h a).append ih

theorem escaped_percentChar (c : Char) : Escaped (percentChar c) := by
  unfold percentChar
  split
  next hkept => exact .kept hkept .nil
  next => exact escaped_flatMap escaped_percentByte _

/-- What is written consists of unreserved characters and escapes. -/
theorem escaped_percentEncode (s : String) : Escaped (percentEncode s).toList := by
  rw [percentEncode, String.toList_ofList]
  exact escaped_flatMap escaped_percentChar _

/-- A text with escapes holds unreserved characters and percent signs only. -/
theorem Escaped.isUnreserved_or_mark {cs : List Char} (h : Escaped cs) :
    ∀ c ∈ cs, isUnreserved c ∨ c = '%' := by
  induction h with
  | nil => simp
  | kept hc _ ih => exact List.forall_mem_cons.mpr ⟨.inl hc, ih⟩
  | escape hhigh hlow _ ih =>
    refine List.forall_mem_cons.mpr ⟨.inr rfl, List.forall_mem_cons.mpr ⟨.inl ?_, ?_⟩⟩
    · exact isUnreserved_of_isUpperHex hhigh
    · exact List.forall_mem_cons.mpr ⟨.inl (isUnreserved_of_isUpperHex hlow), ih⟩

theorem Escaped.ascii {cs : List Char} (h : Escaped cs) : ∀ c ∈ cs, c.toNat < 128 := by
  intro c hc
  rcases h.isUnreserved_or_mark c hc with hkept | rfl
  · exact isUnreserved_ascii hkept
  · decide

end WorkspaceLink.Text
