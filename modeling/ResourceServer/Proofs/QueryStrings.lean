import Mathlib.Data.List.TakeDrop
import Mathlib.Tactic.IntervalCases
import ResourceServer.Url.Percent

/-! Texts read back from their bytes, and bytes from their percent encoding. -/

namespace ResourceServer.Url

theorem begin_one {value : Nat} (small : value < 128) :
    begin (UInt8.ofNat value) = ([Char.ofNat value], .idle) := by
  have written : (UInt8.ofNat value).toNat = value :=
    UInt8.toNat_ofNat_of_lt' (Nat.lt_trans small (by decide))
  unfold begin
  rw [if_pos (by simp [UInt8.lt_iff_toNat_lt, written, small]), written]

theorem begin_two {bits : Nat} (low : 2 ≤ bits) (high : bits < 32) :
    begin (UInt8.ofNat (bits + 192)) = ([], .pending bits 1 0x80 0xBF) := by
  interval_cases bits <;> rfl

theorem begin_three {bits : Nat} (high : bits < 16) :
    begin (UInt8.ofNat (bits + 224)) =
      ([], .pending bits 2 (if bits = 0 then 0xA0 else 0x80) (if bits = 13 then 0x9F else 0xBF)) := by
  interval_cases bits <;> rfl

theorem begin_four {bits : Nat} (high : bits < 5) :
    begin (UInt8.ofNat (bits + 240)) =
      ([], .pending bits 3 (if bits = 0 then 0x90 else 0x80) (if bits = 4 then 0x8F else 0xBF)) := by
  interval_cases bits <;> rfl

section

variable {bits missing value : Nat} {low high : UInt8} (rest : List UInt8)

theorem decodeFrom_pending (small : value < 64)
    (inside : low.toNat ≤ value + 128 ∧ value + 128 ≤ high.toNat) :
    decodeFrom (.pending bits missing low high) (UInt8.ofNat (value + 128) :: rest) =
      if missing = 1 then Char.ofNat (bits * 64 + value) :: decodeFrom .idle rest
      else decodeFrom (.pending (bits * 64 + value) (missing - 1) 0x80 0xBF) rest := by
  have written : (UInt8.ofNat (value + 128)).toNat = value + 128 :=
    UInt8.toNat_ofNat_of_lt' (show value + 128 < 256 by omega)
  have digits : (value + 128) % 64 = value := by omega
  rw [decodeFrom, if_pos (by rwa [UInt8.le_iff_toNat_le, UInt8.le_iff_toNat_le, written])]
  simp only [written, digits]

theorem decodeFrom_begun {first : UInt8} {state : Decoding} (begun : begin first = ([], state)) :
    decodeFrom .idle (first :: rest) = decodeFrom state rest := by
  rw [decodeFrom]
  simp only [begun, List.nil_append]

end

theorem decodeFrom_char (c : Char) (rest : List UInt8) :
    decodeFrom .idle (String.utf8EncodeChar c ++ rest) = c :: decodeFrom .idle rest := by
  have again : Char.ofNat c.val.toNat = c := Char.ofNat_toNat c
  have valid : c.val.toNat < 0xD800 ∨ 0xDFFF < c.val.toNat ∧ c.val.toNat < 0x110000 := c.valid
  unfold String.utf8EncodeChar
  generalize c.val.toNat = value at again valid ⊢
  dsimp only
  split
  · rename_i one
    rw [List.singleton_append, decodeFrom]
    simp only [begin_one (Nat.lt_succ_of_le one), again, List.singleton_append]
  · split
    · rename_i many two
      have bits : value / 64 % 32 = value / 64 := by omega
      rw [bits, List.cons_append, List.singleton_append,
        decodeFrom_begun _ (begin_two (by omega) (by omega)),
        decodeFrom_pending _ (by omega) (by simp; omega), if_pos rfl]
      have value_eq : value / 64 * 64 + value % 64 = value := by omega
      rw [value_eq, again]
    · split
      · rename_i many three
        have bits : value / 4096 % 16 = value / 4096 := by omega
        rw [bits, List.cons_append, List.cons_append, List.singleton_append,
          decodeFrom_begun _ (begin_three (by omega)),
          decodeFrom_pending _ (by omega) (by constructor <;> split <;> simp <;> omega), if_neg (by decide),
          decodeFrom_pending _ (by omega) (by simp; omega), if_pos rfl]
        have value_eq : (value / 4096 * 64 + value / 64 % 64) * 64 + value % 64 = value := by omega
        rw [value_eq, again]
      · rename_i many
        have bits : value / 262144 % 8 = value / 262144 := by omega
        rw [bits, List.cons_append, List.cons_append, List.cons_append, List.singleton_append,
          decodeFrom_begun _ (begin_four (by omega)),
          decodeFrom_pending _ (by omega) (by constructor <;> split <;> simp <;> omega), if_neg (by decide),
          decodeFrom_pending _ (by omega) (by simp; omega), if_neg (by decide),
          decodeFrom_pending _ (by omega) (by simp; omega), if_pos rfl]
        have value_eq : ((value / 262144 * 64 + value / 4096 % 64) * 64 + value / 64 % 64) * 64 +
            value % 64 = value := by omega
        rw [value_eq, again]

theorem hexValue_digit {value : Nat} (small : value < 16) : hexValue? (hexDigit value) = some value := by
  interval_cases value <;> rfl

theorem percentDecode_byte (byte : UInt8) (rest : List Char) :
    percentDecode (encodeByte byte ++ rest) = byte :: percentDecode rest := by
  have large : byte.toNat < 256 := byte.toNat_lt
  have bits : 16 * (byte.toNat / 16) + byte.toNat % 16 = byte.toNat := by omega
  unfold encodeByte
  rw [List.cons_append, List.cons_append, List.singleton_append, percentDecode,
    hexValue_digit (by omega), hexValue_digit (by omega)]
  dsimp only
  rw [bits, UInt8.ofNat_toNat]

theorem percentDecode_bytes (bytes : List UInt8) (rest : List Char) :
    percentDecode (bytes.flatMap encodeByte ++ rest) = bytes ++ percentDecode rest := by
  induction bytes with
  | nil => rfl
  | cons byte bytes ih =>
      rw [List.flatMap_cons, List.append_assoc, percentDecode_byte, ih, List.cons_append]

theorem percentDecode_char {c : Char} (plain : c ≠ '%') (rest : List Char) :
    percentDecode (c :: rest) = String.utf8EncodeChar c ++ percentDecode rest := by
  rw [percentDecode]
  intro a b rest' same
  cases same
  exact absurd rfl plain

end ResourceServer.Url

/-! Query strings: the pairs of keys and values are read back from the text that they are written as. -/

namespace ResourceServer.Text

variable {separator : Char}

theorem splitChars_free {text : List Char} (free : separator ∉ text) (piece rest : List Char) :
    splitChars separator piece (text ++ rest) = splitChars separator (text.reverse ++ piece) rest := by
  induction text generalizing piece with
  | nil => rfl
  | cons c others ih =>
      rw [List.mem_cons, not_or] at free
      rw [List.cons_append, splitChars, if_neg (Ne.symm free.1), ih free.2, List.reverse_cons,
        List.append_assoc, List.singleton_append]

theorem splitChars_intercalate {pieces : List (List Char)} (given : pieces ≠ [])
    (free : ∀ piece ∈ pieces, separator ∉ piece) :
    splitChars separator [] ([separator].intercalate pieces) = pieces := by
  induction pieces with
  | nil => exact absurd rfl given
  | cons piece rest ih =>
      have first := free piece List.mem_cons_self
      cases rest with
      | nil =>
          have alone := splitChars_free first [] []
          rw [List.append_nil, List.append_nil] at alone
          rw [List.intercalate_singleton, alone, splitChars, List.reverse_reverse]
      | cons next others =>
          rw [List.intercalate_cons_cons, List.append_assoc, splitChars_free first, List.singleton_append,
            splitChars, if_pos rfl, List.append_nil, List.reverse_reverse,
            ih (List.cons_ne_nil _ _) fun piece member => free piece (List.mem_cons_of_mem _ member)]

end ResourceServer.Text

namespace ResourceServer.Url

def isFormChar (c : Char) : Bool :=
  c.isAlphanum || ['*', '-', '.', '_', '+', '%'].contains c

def encodeChar (c : Char) : List Char :=
  if c.isAlphanum || ['*', '-', '.', '_'].contains c then [c]
  else if c = ' ' then ['+']
  else (String.utf8EncodeChar c).flatMap encodeByte

theorem encodeByte_chars {byte : UInt8} {c : Char} (member : c ∈ encodeByte byte) :
    isFormChar c = true ∧ c ≠ '+' := by
  have large : byte.toNat < 256 := byte.toNat_lt
  have digit {value : Nat} (small : value < 16) :
      isFormChar (hexDigit value) = true ∧ hexDigit value ≠ '+' := by
    interval_cases value <;> decide
  simp only [encodeByte, List.mem_cons, List.not_mem_nil, or_false] at member
  rcases member with rfl | rfl | rfl
  · decide
  · exact digit (by omega)
  · exact digit (by omega)

theorem encodeChar_chars {c mark : Char} (member : mark ∈ encodeChar c) : isFormChar mark = true := by
  unfold encodeChar at member
  split at member
  · rename_i plain
    rw [List.mem_singleton] at member
    subst member
    simp only [Bool.or_eq_true, List.contains_iff_mem] at plain
    simp only [isFormChar, Bool.or_eq_true, List.contains_iff_mem]
    exact plain.imp_right (List.mem_append_left ['+', '%'])
  · split at member
    · rw [List.mem_singleton] at member
      subst member
      rfl
    · obtain ⟨byte, _, inside⟩ := List.mem_flatMap.mp member
      exact (encodeByte_chars inside).1

theorem percentDecode_encodeChar (c : Char) (rest : List Char) :
    percentDecode ((encodeChar c).map (fun c => if c = '+' then ' ' else c) ++ rest) =
      String.utf8EncodeChar c ++ percentDecode rest := by
  unfold encodeChar
  split
  · rename_i plain
    have marks : c ≠ '%' ∧ c ≠ '+' := by
      constructor <;>
      · rintro rfl
        revert plain
        decide
    rw [List.map_singleton, if_neg marks.2, List.singleton_append, percentDecode_char marks.1]
  · split
    · rename_i blank
      subst blank
      exact percentDecode_char (by decide) rest
    · have same : ((String.utf8EncodeChar c).flatMap encodeByte).map (fun c => if c = '+' then ' ' else c) =
          (String.utf8EncodeChar c).flatMap encodeByte := by
        refine (List.map_congr_left fun mark member => ?_).trans (List.map_id _)
        obtain ⟨byte, _, inside⟩ := List.mem_flatMap.mp member
        exact if_neg (encodeByte_chars inside).2
      rw [same, percentDecode_bytes]

theorem decodePart_encodePart (text : String) : decodePart (encodePart text) = text := by
  have read (characters : List Char) :
      decodeFrom .idle (percentDecode ((characters.flatMap encodeChar).map fun c =>
        if c = '+' then ' ' else c)) = characters := by
    induction characters with
    | nil => rfl
    | cons c rest ih =>
        rw [List.flatMap_cons, List.map_append, percentDecode_encodeChar, decodeFrom_char, ih]
  have same : encodePart text = text.toList.flatMap encodeChar := rfl
  unfold decodePart decodeText
  rw [same, read, String.ofList_toList]

theorem encodePart_chars {text : String} {mark : Char} (member : mark ∈ encodePart text) :
    isFormChar mark = true := by
  obtain ⟨c, _, inside⟩ := List.mem_flatMap.mp member
  exact encodeChar_chars inside

def encodePair (pair : String × String) : List Char :=
  encodePart pair.1 ++ '=' :: encodePart pair.2

theorem encodePair_chars {pair : String × String} {mark : Char} (member : mark ∈ encodePair pair) :
    isFormChar mark = true ∨ mark = '=' := by
  rcases List.mem_append.mp member with left | right
  · exact .inl (encodePart_chars left)
  · rcases List.mem_cons.mp right with same | right
    · exact .inr same
    · exact .inl (encodePart_chars right)

theorem decodePair_encodePair (pair : String × String) : decodePair (encodePair pair) = pair := by
  have free : ∀ mark ∈ encodePart pair.1, decide (mark ≠ '=') = true := by
    intro mark member
    refine decide_eq_true ?_
    rintro rfl
    exact absurd (encodePart_chars member) (by decide)
  unfold decodePair encodePair
  rw [List.span_eq_takeWhile_dropWhile, List.takeWhile_append_of_pos free,
    List.dropWhile_append_of_pos free, List.takeWhile_cons_of_neg (by decide),
    List.dropWhile_cons_of_neg (by decide), List.append_nil]
  simp only [List.drop_one, List.tail_cons, decodePart_encodePart]

theorem encodeForm_toList (pairs : List (String × String)) :
    (encodeForm pairs).toList = ['&'].intercalate (pairs.map encodePair) := by
  unfold encodeForm
  rw [String.toList_intercalate, List.map_map]
  refine congrArg ['&'].intercalate (List.map_congr_left fun pair _ => ?_)
  exact String.toList_ofList

theorem decodeForm_encodeForm (pairs : List (String × String)) :
    decodeForm (encodeForm pairs) = pairs := by
  have apart : ∀ piece ∈ pairs.map encodePair, '&' ∉ piece := by
    intro piece member inside
    obtain ⟨pair, _, rfl⟩ := List.mem_map.mp member
    rcases encodePair_chars inside with plain | other
    · exact absurd plain (by decide)
    · exact absurd other (by decide)
  have full : ∀ piece ∈ pairs.map encodePair, (!piece.isEmpty) = true := by
    intro piece member
    obtain ⟨pair, _, rfl⟩ := List.mem_map.mp member
    simp [encodePair]
  unfold decodeForm
  rw [encodeForm_toList]
  cases pairs with
  | nil => rfl
  | cons pair rest =>
      rw [Text.splitChars_intercalate (by simp) apart, List.filter_eq_self.mpr full,
        List.map_map]
      exact (List.map_congr_left fun pair _ => decodePair_encodePair pair).trans (List.map_id _)

/-- A query string holds the characters of keys and values, and those that part them. -/
theorem encodeForm_chars {pairs : List (String × String)} {mark : Char}
    (member : mark ∈ (encodeForm pairs).toList) :
    isFormChar mark = true ∨ mark = '=' ∨ mark = '&' := by
  rw [encodeForm_toList] at member
  induction pairs with
  | nil => cases member
  | cons pair rest ih =>
      cases rest with
      | nil =>
          rw [List.map_singleton, List.intercalate_singleton] at member
          exact (encodePair_chars member).imp_right .inl
      | cons next others =>
          rw [List.map_cons, List.map_cons, List.intercalate_cons_cons, List.append_assoc] at member
          rcases List.mem_append.mp member with first | later
          · exact (encodePair_chars first).imp_right .inl
          · rcases List.mem_cons.mp later with same | later
            · exact .inr (.inr same)
            · exact ih later

end ResourceServer.Url
