import DocSearch.Http.Engine
import Mathlib.Data.List.Basic

/-!
# Segments

A name becomes a segment of a path by escaping. Nothing is lost in it: a segment reads back as the
name that it was made from, byte by byte, and holds no slash, so the text of a path reads back as
its segments.
-/

namespace DocSearch.Url

open Http (plainText)

/-! ### Escaped text -/

section Percent

variable {escaped : Char → Bool}

theorem unescape_cons {c : Char} (h : c ≠ '%') (s : List Char) :
    unescape (c :: s) = String.utf8EncodeChar c ++ unescape s := by
  rw [unescape]
  exact fun a b t hc _ => h hc

-- escaping writes the digits above nine in upper case, and reading takes both
theorem hexDigit?_toUpper {n : Nat} (h : n < 16) :
    hexDigit? (Nat.digitChar n).toUpper = some n := by
  have hall : ∀ n < 16, hexDigit? (Nat.digitChar n).toUpper = some n := by decide
  exact hall n h

theorem unescape_escapeByte (b : UInt8) (s : List Char) :
    unescape (escapeByte b ++ s) = b :: unescape s := by
  have hbyte : b.toNat < 256 := b.toNat_lt
  have hvalue : 16 * (b.toNat / 16) + b.toNat % 16 = b.toNat := by omega
  simp only [escapeByte, List.cons_append, List.nil_append, unescape]
  rw [hexDigit?_toUpper (by omega), hexDigit?_toUpper (by omega)]
  simp only [hvalue, UInt8.ofNat_toNat]

theorem unescape_escapeBytes (bytes : List UInt8) (s : List Char) :
    unescape (bytes.flatMap escapeByte ++ s) = bytes ++ unescape s := by
  induction bytes with
  | nil => rfl
  | cons b bytes ih =>
    rw [List.flatMap_cons, List.append_assoc, unescape_escapeByte, ih, List.cons_append]

theorem unescape_escapeChar (hescaped : escaped '%' = true) (c : Char) (s : List Char) :
    unescape (escapeChar escaped c ++ s) = String.utf8EncodeChar c ++ unescape s := by
  unfold escapeChar
  split
  · next hplain =>
    refine unescape_cons ?_ s
    rintro rfl
    simp [hescaped] at hplain
  · exact unescape_escapeBytes _ s

theorem unescape_escape (hescaped : escaped '%' = true) (s : List Char) :
    unescape (escape escaped s).toList = s.flatMap String.utf8EncodeChar := by
  rw [escape, String.toList_ofList]
  induction s with
  | nil => rfl
  | cons c s ih =>
    rw [List.flatMap_cons, List.flatMap_cons, unescape_escapeChar hescaped, ih]

theorem textOfBytes_utf8 (s : List Char) :
    textOfBytes (s.flatMap String.utf8EncodeChar) = some (String.ofList s) := by
  have hbytes : (⟨(s.flatMap String.utf8EncodeChar).toArray⟩ : ByteArray) =
      (String.ofList s).toByteArray := by
    rw [String.toByteArray_ofList, List.utf8Encode]
    exact ByteArray.ext List.data_toByteArray.symm
  rw [textOfBytes, hbytes, String.fromUTF8?, dif_pos (String.ofList s).isValidUTF8]
  rfl

/-- Escaped text stands for what it was made from if the percent sign is escaped. -/
theorem plainText_escape (hescaped : escaped '%' = true) (s : List Char) :
    plainText (escape escaped s) = some (String.ofList s) := by
  rw [plainText, unescape_escape hescaped, textOfBytes_utf8]

theorem escape_eq_ofList {s : List Char} (h : ∀ c ∈ s, c.toNat < 128 ∧ escaped c = false) :
    escape escaped s = String.ofList s := by
  have hplain : s.flatMap (escapeChar escaped) = s.flatMap fun c => [c] := by
    refine List.flatMap_congr fun c hc => ?_
    obtain ⟨hascii, hkept⟩ := h c hc
    exact if_pos ⟨hascii, by rw [hkept]; rfl⟩
  rw [escape, hplain, List.flatMap_singleton']

end Percent

/-! ### Segments -/

/-- The segment for a name. -/
def segmentOf (scheme name : String) : String := escape (inSegment (isSpecial scheme)) name.toList

section Segments

variable {scheme name : String} {special : Bool}

theorem inSegment_percent (special : Bool) : inSegment special '%' = true := by
  cases special <;> rfl

theorem plainText_segmentOf (scheme name : String) :
    plainText (segmentOf scheme name) = some name := by
  rw [segmentOf, plainText_escape (inSegment_percent _), String.ofList_toList]

theorem segmentOf_injective : Function.Injective (segmentOf scheme) := by
  intro name name' h
  have hplain := congrArg plainText h
  rw [plainText_segmentOf, plainText_segmentOf] at hplain
  exact Option.some.inj hplain

theorem slash_not_mem_escapeByte (b : UInt8) : '/' ∉ escapeByte b := by
  have hall : ∀ n < 16, '/' ≠ (Nat.digitChar n).toUpper := by decide
  have hbyte : b.toNat < 256 := b.toNat_lt
  simp only [escapeByte, List.mem_cons, List.not_mem_nil, or_false, not_or]
  exact ⟨by decide, hall _ (by omega), hall _ (by omega)⟩

theorem slash_not_mem_segmentOf (scheme name : String) : '/' ∉ (segmentOf scheme name).toList := by
  rw [segmentOf, escape, String.toList_ofList, List.mem_flatMap]
  rintro ⟨c, -, hslash⟩
  unfold escapeChar at hslash
  split at hslash
  · next hplain =>
    obtain rfl := List.mem_singleton.mp hslash
    simp [inSegment] at hplain
  · obtain ⟨b, -, hslash⟩ := List.mem_flatMap.mp hslash
    exact slash_not_mem_escapeByte b hslash

theorem plain_of_isAlpha {c : Char} (h : c.isAlpha = true) (special : Bool) :
    c.toNat < 128 ∧ inSegment special c = false := by
  have hall : ∀ n < 128, (Char.ofNat n).isAlpha = true →
      ∀ special, inSegment special (Char.ofNat n) = false := by decide +kernel
  have hascii : c.toNat < 128 := by
    rcases Bool.or_eq_true_iff.mp h with hupper | hlower
    · exact Nat.lt_of_le_of_lt (of_decide_eq_true hupper).2 (by decide)
    · obtain ⟨-, hlast⟩ := Bool.and_eq_true_iff.mp hlower
      exact Nat.lt_of_le_of_lt (of_decide_eq_true hlast) (by decide)
  have hkept := hall c.toNat hascii
  rw [Char.ofNat_toNat] at hkept
  exact ⟨hascii, hkept h special⟩

theorem segmentOf_ofList {s : List Char}
    (h : ∀ c ∈ s, c.toNat < 128 ∧ inSegment (isSpecial scheme) c = false) :
    segmentOf scheme (String.ofList s) = String.ofList s := by
  rw [segmentOf, String.toList_ofList, escape_eq_ofList h]

/-! ### Drives -/

theorem withColon_ofList {c : Char} (h : c.isAlpha = true) :
    withColon (String.ofList [c, '|']) = String.ofList [c, ':'] := by
  rw [withColon, String.toList_ofList]
  exact if_pos h

theorem withColon_eq_self (h : ∀ c, c.isAlpha = true → name ≠ String.ofList [c, '|']) :
    withColon name = name := by
  rw [withColon]
  split
  · next c hname =>
    refine if_neg fun halpha => h c halpha ?_
    rw [← hname, String.ofList_toList]
  · rfl

theorem segmentOf_drive {c mark : Char} (h : c.isAlpha = true) (hmark : mark = '|' ∨ mark = ':') :
    segmentOf scheme (String.ofList [c, mark]) = String.ofList [c, mark] := by
  refine segmentOf_ofList ?_
  rw [List.forall_mem_cons, List.forall_mem_singleton]
  refine ⟨plain_of_isAlpha h _, ?_⟩
  rcases hmark with rfl | rfl
  · cases isSpecial scheme <;> decide
  · cases isSpecial scheme <;> decide

/-- A drive looks the same in a segment, so it makes no difference when its bar is replaced. -/
theorem withColon_segmentOf (scheme name : String) :
    withColon (segmentOf scheme name) = segmentOf scheme (withColon name) := by
  by_cases hdrive : ∃ c, c.isAlpha = true ∧ name = String.ofList [c, '|']
  · obtain ⟨c, halpha, rfl⟩ := hdrive
    rw [segmentOf_drive halpha (Or.inl rfl), withColon_ofList halpha,
      segmentOf_drive halpha (Or.inr rfl)]
  · have hname : ∀ c, c.isAlpha = true → name ≠ String.ofList [c, '|'] :=
      fun c halpha hc => hdrive ⟨c, halpha, hc⟩
    rw [withColon_eq_self hname]
    refine withColon_eq_self fun c halpha hc => hname c halpha ?_
    have hdrive : segmentOf scheme (String.ofList [c, '|']) = String.ofList [c, '|'] :=
      segmentOf_drive halpha (Or.inl rfl)
    exact segmentOf_injective (hc.trans hdrive.symm)

end Segments

/-! ### Texts of paths -/

section Texts

variable {names names' : List String}

theorem toList_segmentsText (names : List String) :
    (Path.segmentsText names).toList = names.flatMap fun name => '/' :: name.toList := by
  rw [Path.segmentsText, String.toList_join, List.flatMap_map]
  exact List.flatMap_congr fun name _ => by rw [String.toList_append]; rfl

theorem parts_append {p : Char → Bool} {s : List Char} (h : ∀ c ∈ s, p c = false)
    (read rest : List Char) :
    splitWhere.parts p read (s ++ rest) = splitWhere.parts p (s.reverse ++ read) rest := by
  induction s generalizing read with
  | nil => rfl
  | cons c s ih =>
    obtain ⟨hc, hs⟩ := List.forall_mem_cons.mp h
    rw [List.cons_append, splitWhere.parts, hc, if_neg Bool.false_ne_true, ih hs,
      List.reverse_cons, List.append_assoc, List.singleton_append]

/-- Segments without slashes are read back from the text of a path. -/
theorem splitWhere_segmentsText (h : ∀ name ∈ names, '/' ∉ name.toList) :
    splitWhere (· == '/') (Path.segmentsText names).toList = [] :: names.map String.toList := by
  have hparts (read : List Char) :
      splitWhere.parts (· == '/') read (names.flatMap fun name => '/' :: name.toList) =
        read.reverse :: names.map String.toList := by
    induction names generalizing read with
    | nil => rfl
    | cons name names ih =>
      obtain ⟨hname, hnames⟩ := List.forall_mem_cons.mp h
      have hfree : ∀ c ∈ name.toList, (c == '/') = false := by
        intro c hc
        exact beq_eq_false_iff_ne.mpr fun hslash => hname (hslash ▸ hc)
      rw [List.flatMap_cons, List.cons_append, splitWhere.parts, if_pos (beq_self_eq_true '/'),
        parts_append hfree, ih hnames, List.append_nil, List.reverse_reverse, List.map_cons]
  rw [toList_segmentsText, splitWhere, hparts, List.reverse_nil]

/-- After segments in common, segments without slashes are told apart by the text. -/
theorem segmentsText_append_injective {before : List String}
    (h : ∀ name ∈ names, '/' ∉ name.toList) (h' : ∀ name ∈ names', '/' ∉ name.toList)
    (htext : Path.segmentsText (before ++ names) = Path.segmentsText (before ++ names')) :
    names = names' := by
  have hlist := congrArg String.toList htext
  rw [toList_segmentsText, toList_segmentsText, List.flatMap_append, List.flatMap_append] at hlist
  have hsplit := congrArg (splitWhere (· == '/')) (List.append_cancel_left hlist)
  rw [← toList_segmentsText, ← toList_segmentsText, splitWhere_segmentsText h,
    splitWhere_segmentsText h'] at hsplit
  exact List.map_injective_iff.mpr (fun _ _ => String.toList_injective) (List.cons.inj hsplit).2

theorem pathText_of_segments {a : Address} (h : a.path = .segments names)
    (hlength : 2 ≤ names.length) :
    a.pathText = (if a.authority = none ∧ names.head? = some "" then "/." else "") ++
      Path.segmentsText names := by
  rcases names with _ | ⟨first, _ | ⟨second, rest⟩⟩
  · simp at hlength
  · simp at hlength
  · rw [Address.pathText, h]
    cases a.authority with
    | some authority => simp [Path.text]
    | none =>
      by_cases hempty : first = ""
      · subst hempty
        simp
      · simp [hempty, Path.text]

end Texts

end DocSearch.Url
