import LspWire.Proofs.Characters
import LspWire.Uri.Fragment

/-!
# Replacing a fragment

What is left when the fragment is cut off by its length is the text before the first `#` (`base_eq_stem`), and that is
what the other components make up, so a new fragment leaves them as they are and takes the place of an old one
(`split_append_fragment`, `withFragment_spec`). What a plain text is encoded as is a fragment, and its percent-decoding
is the text again (`madeOf_encodeFragment`, `decodeFragment_encodeFragment`). So replacing a fragment never fails, and
of several fragments only the last is left (`withFragment_replaces`).
-/

namespace LspWire.Uri

/-! ## Splitting a text with a fragment behind it -/

section Append

variable {a b : List Char}

theorem splitScheme_append (hb : Stopped ['#'] b) :
    splitScheme (a ++ b) = ((splitScheme a).1, (splitScheme a).2 ++ b) := by
  rcases splitScheme_cases a with ⟨s, rest, hne, hall, rfl, hs⟩ | ⟨hs, hcolon⟩
  · rw [hs, List.append_assoc]
    exact splitScheme_text hne hall
  · have hstop : Stopped [':', '/', '?', '#'] b := hb.mono (by simp)
    rw [hs]
    unfold splitScheme
    rw [before_append hstop, from?_append hstop]
    split
    · next c s rest hbefore hfrom =>
      cases hfrom' : from? [':', '/', '?', '#'] a with
      | nil =>
        rw [hfrom', List.nil_append] at hfrom
        simp [hfrom] at hb
      | cons d ds =>
        rw [hfrom', List.cons_append, List.cons.injEq] at hfrom
        rcases hcolon with hempty | hcolon
        · rw [hempty] at hbefore
          cases hbefore
        · exact absurd (hfrom.1 ▸ hfrom') (hcolon ds)
    · rfl

theorem splitAuthority_append (hb : Stopped ['#'] b) :
    splitAuthority (a ++ b) = ((splitAuthority a).1, (splitAuthority a).2 ++ b) := by
  by_cases hslashes : ['/', '/'] <+: a
  · obtain ⟨rest, rfl⟩ := hslashes
    have hstop : Stopped ['/', '?', '#'] b := hb.mono (by simp)
    show (some (before ['/', '?', '#'] (rest ++ b)), from? ['/', '?', '#'] (rest ++ b)) = _
    rw [before_append hstop, from?_append hstop]
    rfl
  · have hnone : ∀ {cs : List Char}, ¬ ['/', '/'] <+: cs → splitAuthority cs = (none, cs) := fun h =>
      splitAuthority_marked (a := none) (by simp) (by simp) fun _ => h
    rw [hnone hslashes, hnone fun h => hslashes (slashes_of_append (hb.mono (by simp)) h)]

theorem splitQuery_append (hb : Stopped ['#'] b) : splitQuery (a ++ b) = ((splitQuery a).1, (splitQuery a).2 ++ b) := by
  cases a with
  | nil => exact splitQuery_marked (q := none) (by simp) hb
  | cons c a =>
    by_cases hc : c = '?'
    · subst hc
      show (some (before ['#'] (a ++ b)), from? ['#'] (a ++ b)) = _
      rw [before_append hb, from?_append hb]
      rfl
    · have hnone : ∀ cs, splitQuery (c :: cs) = (none, c :: cs) := by
        intro cs
        unfold splitQuery
        split
        · next h => exact absurd (List.cons.inj h).1 hc
        · rfl
      rw [List.cons_append, hnone, hnone]
      rfl

end Append

/-! ## The text before a fragment -/

theorem fragment_eq_none {a : List Char} (ha : '#' ∉ a) : (split a).fragment = none := by
  cases hf : (split a).fragment with
  | none => rfl
  | some f =>
    have hjoin := join_split a
    rw [Parts.join_eq, hf] at hjoin
    exact absurd (hjoin ▸ by simp [marked]) ha

/-- **A fragment behind a text without one leaves the other components as they are.** -/
theorem split_append_fragment {a : List Char} (ha : '#' ∉ a) (f : Option (List Char)) :
    split (a ++ marked ['#'] f) = { split a with fragment := f } := by
  have hb : Stopped ['#'] (marked ['#'] f) := stopped_marked f
  have hend : (splitQuery (from? ['?', '#'] (splitAuthority (splitScheme a).2).2)).2 = [] := by
    have hmarked := marked_splitFragment (stopped_splitQuery
      (stopped_from? ['?', '#'] (splitAuthority (splitScheme a).2).2))
    have hfragment := fragment_eq_none ha
    simp only [split] at hfragment
    rw [← hmarked, hfragment]
    rfl
  have hquery : Stopped ['?', '#'] (marked ['#'] f) := hb.mono (by simp)
  simp only [split, splitScheme_append hb, splitAuthority_append hb, before_append hquery, from?_append hquery,
    splitQuery_append hb, hend, List.nil_append, splitFragment_marked]

/-- The text before the first `#`. -/
def stem (cs : List Char) : List Char := before ['#'] cs

theorem hash_not_mem_stem (cs : List Char) : '#' ∉ stem cs := fun h => not_mem_of_mem_before h (by simp)

theorem stem_append {a : List Char} (ha : '#' ∉ a) (f : Option (List Char)) : stem (a ++ marked ['#'] f) = a :=
  before_of_stopped (fun c hc => by rintro hmem; exact ha (List.mem_singleton.1 hmem ▸ hc)) (stopped_marked f)

/-- A text is the text before its fragment and the fragment. -/
theorem stem_append_fragment (cs : List Char) : stem cs ++ marked ['#'] (split cs).fragment = cs := by
  have hcs : stem cs ++ from? ['#'] cs = cs := before_append_from? _ _
  have hfrom := marked_splitFragment (stopped_from? ['#'] cs)
  have hfragment : (split cs).fragment = splitFragment (from? ['#'] cs) := by
    have hsplit := split_append_fragment (hash_not_mem_stem cs) (splitFragment (from? ['#'] cs))
    rw [hfrom, hcs] at hsplit
    rw [hsplit]
  rw [hfragment, hfrom, hcs]

theorem split_stem (cs : List Char) : split (stem cs) = { split cs with fragment := none } := by
  have hsplit := split_append_fragment (hash_not_mem_stem cs) (split cs).fragment
  rw [stem_append_fragment] at hsplit
  rw [hsplit, ← fragment_eq_none (hash_not_mem_stem cs)]

/-- What is left when a fragment is cut off by its length is the text before the first `#`. -/
theorem base_eq_stem (u : Uri) : u.base = stem u.text.toList := by
  have htext := stem_append_fragment u.text.toList
  unfold base
  split
  · next hf =>
    rw [parts] at hf
    rw [hf, marked, List.append_nil] at htext
    exact htext.symm
  · next f hf =>
    rw [parts] at hf
    rw [hf] at htext
    have hlength : u.text.toList.length - (f.length + 1) = (stem u.text.toList).length := by
      have hl := congrArg List.length htext
      simp only [marked, List.length_append, List.length_cons, List.length_nil] at hl
      omega
    rw [hlength]
    exact (List.prefix_iff_eq_take.1 ⟨_, htext⟩).symm

/-! ## Percent-decoding -/

/-- The value of a hexadecimal digit. -/
def hexValue (c : Char) : Nat :=
  if isDigit c then c.toNat - '0'.toNat else if 'a' ≤ c then c.toNat - 'a'.toNat + 10 else c.toNat - 'A'.toNat + 10

/-- The bytes that a component stands for: a triplet for its byte, any other character for its UTF-8 bytes. -/
def percentDecode : List Char → List UInt8
  | '%' :: a :: b :: cs =>
    if isHex a && isHex b then UInt8.ofNat (16 * hexValue a + hexValue b) :: percentDecode cs
    else String.utf8EncodeChar '%' ++ percentDecode (a :: b :: cs)
  | c :: cs => String.utf8EncodeChar c ++ percentDecode cs
  | [] => []

/-- The plain text that a component stands for, if its bytes are UTF-8. -/
def decodeFragment (cs : List Char) : Option String := String.fromUTF8? (percentDecode cs).toByteArray

theorem isHex_upperHex : ∀ n < 16, isHex (upperHex n) = true := by decide +kernel

theorem hexValue_upperHex : ∀ n < 16, hexValue (upperHex n) = n := by decide +kernel

theorem halves_lt (b : UInt8) : b.toNat / 16 < 16 ∧ b.toNat % 16 < 16 :=
  ⟨Nat.div_lt_of_lt_mul b.toNat_lt, Nat.mod_lt _ (by omega)⟩

theorem percentDecode_triplet (b : UInt8) (cs : List Char) :
    percentDecode (triplet b ++ cs) = b :: percentDecode cs := by
  obtain ⟨hhigh, hlow⟩ := halves_lt b
  have hbyte : UInt8.ofNat (16 * (b.toNat / 16) + b.toNat % 16) = b := by rw [Nat.div_add_mod, UInt8.ofNat_toNat]
  simp only [triplet, List.cons_append, List.nil_append, percentDecode, isHex_upperHex _ hhigh, isHex_upperHex _ hlow,
    hexValue_upperHex _ hhigh, hexValue_upperHex _ hlow, hbyte, Bool.and_self, if_true]

theorem percentDecode_triplets (bs : List UInt8) (cs : List Char) :
    percentDecode (bs.flatMap triplet ++ cs) = bs ++ percentDecode cs := by
  induction bs with
  | nil => rfl
  | cons b bs ih => rw [List.flatMap_cons, List.append_assoc, percentDecode_triplet, ih, List.cons_append]

theorem percentDecode_cons {c : Char} (hc : c ≠ '%') (cs : List Char) :
    percentDecode (c :: cs) = String.utf8EncodeChar c ++ percentDecode cs := by
  rw [percentDecode]
  intro a b ds hmark
  exact absurd hmark hc

/-- An encoded character stands for its UTF-8 bytes. -/
theorem percentDecode_encodeChar (c : Char) (cs : List Char) :
    percentDecode (encodeChar c ++ cs) = String.utf8EncodeChar c ++ percentDecode cs := by
  unfold encodeChar
  split
  · next hc =>
    refine percentDecode_cons ?_ cs
    rintro rfl
    revert hc
    decide
  · exact percentDecode_triplets _ cs

theorem percentDecode_encodeFragment (cs : List Char) :
    percentDecode (encodeFragment cs) = cs.flatMap String.utf8EncodeChar := by
  induction cs with
  | nil => rfl
  | cons c cs ih =>
    rw [encodeFragment, List.flatMap_cons, percentDecode_encodeChar, ← encodeFragment, ih, List.flatMap_cons]

/-- **An encoded fragment stands for its plain text.** -/
theorem decodeFragment_encodeFragment (f : String) : decodeFragment (encodeFragment f.toList) = some f := by
  have hbytes : (f.toList.flatMap String.utf8EncodeChar).toByteArray = f.toByteArray := String.utf8Encode_toList
  rw [decodeFragment, percentDecode_encodeFragment, hbytes, String.fromUTF8?, dif_pos f.isValidUTF8]
  rfl

example : encodeFragment "%#é/?".toList = "%25%23%C3%A9/?".toList := by decide +kernel

/-- **An encoded fragment is made of the characters of a fragment.** -/
theorem madeOf_encodeFragment (cs : List Char) : MadeOf isFragmentChar (encodeFragment cs) := by
  have htriplets : ∀ bs : List UInt8, MadeOf isFragmentChar (bs.flatMap triplet) := by
    intro bs
    induction bs with
    | nil => exact .nil
    | cons b bs ih =>
      obtain ⟨hhigh, hlow⟩ := halves_lt b
      exact .triplet (isHex_upperHex _ hhigh) (isHex_upperHex _ hlow) ih
  induction cs with
  | nil => exact .nil
  | cons c cs ih =>
    have hchar : MadeOf isFragmentChar (encodeChar c) := by
      unfold encodeChar
      split
      · next hc => exact .char hc .nil
      · exact htriplets _
    exact hchar.append ih

/-! ## Replacing a fragment -/

/-- The fragment that a replacement leaves. -/
def encodedFragment (f : Option String) : Option (List Char) := f.map fun f => encodeFragment f.toList

theorem withFragment_eq (u : Uri) (f : Option String) :
    u.withFragment f = parse (String.ofList (stem u.text.toList ++ marked ['#'] (encodedFragment f))) := by
  cases f with
  | none => rw [encodedFragment, Option.map_none, marked, List.append_nil, withFragment, base_eq_stem]
  | some f =>
    rw [encodedFragment, Option.map_some, withFragment, base_eq_stem]
    rfl

/-- The components of a reference are lines of their classes. -/
theorem lines_parts (u : Uri) : u.parts.Lines := problem?_eq_none_iff.1 u.valid

/-- Replacing a fragment never fails, leaves the text before it as it is, and puts the encoded plain text behind it. -/
theorem withFragment_spec (u : Uri) (f : Option String) : ∃ v, u.withFragment f = .ok v ∧
    v.text.toList = stem u.text.toList ++ marked ['#'] (encodedFragment f) ∧
    v.parts = { u.parts with fragment := encodedFragment f } := by
  have hsplit : split (String.ofList (stem u.text.toList ++ marked ['#'] (encodedFragment f))).toList =
      { u.parts with fragment := encodedFragment f } := by
    rw [String.toList_ofList, split_append_fragment (hash_not_mem_stem _), split_stem, parts]
  have hfragment : ∀ cs ∈ encodedFragment f, LineOf isFragmentChar cs := by
    intro cs hcs
    cases f with
    | none => cases hcs
    | some f =>
      cases hcs
      exact ⟨_, madeOf_encodeFragment _, .inl rfl⟩
  have hlines : (split (String.ofList (stem u.text.toList ++ marked ['#'] (encodedFragment f))).toList).Lines :=
    hsplit ▸ { lines_parts u with fragment := hfragment }
  obtain ⟨v, hv⟩ := parse_ok_iff_lines.2 hlines
  have htext := parse_eq_ok.1 hv
  exact ⟨v, by rw [withFragment_eq, hv], by rw [htext, String.toList_ofList], by rw [parts, htext, hsplit]⟩

/-- A replacement does not depend on the fragment that there was. -/
theorem withFragment_of_withFragment {u v : Uri} {g : Option String} (h : u.withFragment g = .ok v)
    (f : Option String) : v.withFragment f = u.withFragment f := by
  obtain ⟨w, hw, htext, -⟩ := withFragment_spec u g
  rw [h] at hw
  cases hw
  rw [withFragment_eq, withFragment_eq, htext, stem_append (hash_not_mem_stem _)]

/-- Of several replacements the last one is left. -/
theorem foldlM_withFragment (u : Uri) (gs : List (Option String)) (f : Option String) :
    (gs ++ [f]).foldlM withFragment u = u.withFragment f := by
  induction gs generalizing u with
  | nil => simp
  | cons g gs ih =>
    obtain ⟨v, hv, -⟩ := withFragment_spec u g
    rw [List.cons_append, List.foldlM_cons, hv]
    exact (ih v).trans (withFragment_of_withFragment hv f)

/-- **Replacing a fragment never fails and changes the fragment only.** The fragment is as the argument has it: none, or
    one that is made of the characters of a fragment and of triplets and stands for the plain text. Of several
    replacements only the last is left. -/
theorem withFragment_replaces (u : Uri) (f : Option String) :
    (∃ v, u.withFragment f = .ok v ∧ v.parts.scheme = u.parts.scheme ∧ v.parts.authority = u.parts.authority ∧
      v.parts.path = u.parts.path ∧ v.parts.query = u.parts.query ∧
      (f = none → v.parts.fragment = none) ∧
      ∀ t, f = some t → ∃ cs, v.parts.fragment = some cs ∧ MadeOf isFragmentChar cs ∧ decodeFragment cs = some t ∧
        (t = "" → cs = [])) ∧
    (∀ g, (u.withFragment g).bind (·.withFragment f) = u.withFragment f) ∧
    ∀ gs : List (Option String), (gs ++ [f]).foldlM withFragment u = u.withFragment f := by
  refine ⟨?_, fun g => ?_, fun gs => foldlM_withFragment u gs f⟩
  · obtain ⟨v, hv, -, hparts⟩ := withFragment_spec u f
    refine ⟨v, hv, ?_⟩
    rw [hparts]
    refine ⟨rfl, rfl, rfl, rfl, ?_, ?_⟩
    · rintro rfl
      rfl
    · rintro t rfl
      refine ⟨_, rfl, madeOf_encodeFragment _, decodeFragment_encodeFragment t, ?_⟩
      rintro rfl
      rfl
  · obtain ⟨v, hv, -⟩ := withFragment_spec u g
    rw [hv]
    exact withFragment_of_withFragment hv f

/-- A percent sign, a hash and a letter beyond ASCII take the place of an empty fragment. -/
theorem escaped_fragment_replaces : ∃ u v cs, parse "a?b#" = .ok u ∧ u.withFragment (some "%#é") = .ok v ∧
    v.parts.query = some ['b'] ∧ v.parts.fragment = some cs ∧ decodeFragment cs = some "%#é" := by
  obtain ⟨u, hu⟩ := parse_ok_iff.2 (show (split "a?b#".toList).problem? = none by decide +kernel)
  have hquery : u.parts.query = some ['b'] := by
    rw [parts, parse_eq_ok.1 hu]
    decide +kernel
  obtain ⟨v, hv, -, -, -, hq, -, hsome⟩ := (withFragment_replaces u (some "%#é")).1
  obtain ⟨cs, hcs, -, hdecode, -⟩ := hsome _ rfl
  exact ⟨u, v, cs, hu, hv, hq.trans hquery, hcs, hdecode⟩

end LspWire.Uri
