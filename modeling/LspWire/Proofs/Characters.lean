import LspWire.Proofs.Components
import LspWire.Proofs.Conformance
import LspWire.Proofs.Issues

/-!
# Characters of a URI reference

RFC 3986 makes a reference of reserved and unreserved characters and of percent triplets (`MadeOf isUriChar`). A text
is read as a reference if each of its components is made of the characters of its class, or of those and one line feed
at its end (`parse_ok_iff_lines`): the pattern of a component also ends before a last line feed. So what is read is a
text of RFC 3986 exactly if it has no line feed (`rfc_iff_no_line_feed`).
-/

namespace LspWire.Uri

/-! ## Texts made of characters and triplets -/

/-- Whether a text is made of characters of a class and of percent triplets. -/
inductive MadeOf (allowed : Char → Bool) : List Char → Prop
  | nil : MadeOf allowed []
  | char {c : Char} {cs : List Char} : allowed c = true → MadeOf allowed cs → MadeOf allowed (c :: cs)
  | triplet {a b : Char} {cs : List Char} : isHex a = true → isHex b = true → MadeOf allowed cs →
      MadeOf allowed ('%' :: a :: b :: cs)

section MadeOf

variable {allowed : Char → Bool} {cs ds : List Char}

theorem MadeOf.append (h : MadeOf allowed cs) (hd : MadeOf allowed ds) : MadeOf allowed (cs ++ ds) := by
  induction h with
  | nil => exact hd
  | char hc _ ih => exact .char hc ih
  | triplet ha hb _ ih => exact .triplet ha hb ih

theorem MadeOf.mono {more : Char → Bool} (h : MadeOf allowed cs) (hsub : ∀ c, allowed c = true → more c = true) :
    MadeOf more cs := by
  induction h with
  | nil => exact .nil
  | char hc _ ih => exact .char (hsub _ hc) ih
  | triplet ha hb _ ih => exact .triplet ha hb ih

/-- What is made of a class holds its characters and those of percent triplets. -/
theorem MadeOf.mem (h : MadeOf allowed cs) : ∀ c ∈ cs, allowed c = true ∨ c = '%' ∨ isHex c = true := by
  induction h with
  | nil => simp
  | char hc _ ih => exact List.forall_mem_cons.2 ⟨.inl hc, ih⟩
  | triplet ha hb _ ih =>
    exact List.forall_mem_cons.2 ⟨.inr (.inl rfl), List.forall_mem_cons.2 ⟨.inr (.inr ha),
      List.forall_mem_cons.2 ⟨.inr (.inr hb), ih⟩⟩⟩

theorem MadeOf.not_mem (h : MadeOf allowed cs) {c : Char} (hallowed : allowed c = false) (hpercent : c ≠ '%')
    (hhex : isHex c = false) : c ∉ cs := by
  intro hc
  rcases h.mem c hc with h | h | h
  · rw [hallowed] at h
    cases h
  · exact hpercent h
  · rw [hhex] at h
    cases h

theorem madeOf_of_all (h : ∀ c ∈ cs, allowed c = true) : MadeOf allowed cs := by
  induction cs with
  | nil => exact .nil
  | cons c cs ih =>
    obtain ⟨hc, hcs⟩ := List.forall_mem_cons.1 h
    exact .char hc (ih hcs)

/-- A line of characters of a class and percent triplets: with or without the line feed at its end. -/
def LineOf (allowed : Char → Bool) (cs : List Char) : Prop :=
  ∃ ds, MadeOf allowed ds ∧ (cs = ds ∨ cs = ds ++ ['\n'])

/-- A repetition of characters of a class and triplets reads what is made of them. -/
theorem madeOf_of_leaves {rest : List Char}
    (h : (Pattern.star (.alt (.char allowed) (.seq (.one '%') (.seq (.char isHex) (.char isHex))))).Leaves cs rest) :
    ∃ ds, MadeOf allowed ds ∧ cs = ds ++ rest := by
  refine Pattern.leaves_star_induction h ?_ ?_
  · exact ⟨[], .nil, rfl⟩
  rintro cs _ hbody ⟨ds, hds, rfl⟩
  rcases Pattern.leaves_alt_iff.1 hbody with hchar | htriplet
  · obtain ⟨c, hc, rfl⟩ := Pattern.leaves_char_iff.1 hchar
    exact ⟨c :: ds, .char hc hds, rfl⟩
  · simp only [Pattern.leaves_seq_iff, Pattern.leaves_one_iff, Pattern.leaves_char_iff] at htriplet
    obtain ⟨_, rfl, _, ⟨a, ha, rfl⟩, b, hb, rfl⟩ := htriplet
    exact ⟨'%' :: a :: b :: ds, .triplet ha hb hds, rfl⟩

theorem MadeOf.leaves (h : MadeOf allowed ds) (rest : List Char) :
    (Pattern.star (.alt (.char allowed) (.seq (.one '%') (.seq (.char isHex) (.char isHex))))).Leaves (ds ++ rest)
      rest := by
  induction h with
  | nil => exact .done
  | char hc _ ih => exact .more (.left (.char hc)) (by simp) ih
  | triplet ha hb _ ih =>
    exact .more (.right (.seq (Pattern.leaves_one_iff.2 rfl) (.seq (.char ha) (.char hb)))) (by simp; omega) ih

/-- The pattern of a class accepts the lines of the class. -/
theorem accepts_component_iff : (Pattern.component allowed).accepts cs = true ↔ LineOf allowed cs := by
  rw [Pattern.accepts_iff]
  constructor
  · rintro ⟨rest, h⟩
    obtain ⟨_, hstar, hend⟩ := Pattern.leaves_seq_iff.1 h
    obtain ⟨hrest, rfl⟩ := Pattern.leaves_atEnd_iff.1 hend
    obtain ⟨ds, hds, rfl⟩ := madeOf_of_leaves hstar
    rcases hrest with rfl | rfl
    · exact ⟨ds, hds, .inl (List.append_nil ds)⟩
    · exact ⟨ds, hds, .inr rfl⟩
  · rintro ⟨ds, hds, rfl | rfl⟩
    · have hstar := hds.leaves []
      rw [List.append_nil] at hstar
      exact ⟨[], .seq hstar (.atEnd (.inl rfl))⟩
    · exact ⟨['\n'], .seq (hds.leaves ['\n']) (.atEnd (.inr rfl))⟩

theorem consistsOf_append (hpercent : allowed '%' = false) (h : MadeOf allowed cs) (ds : List Char) :
    consistsOf allowed ds = true → consistsOf allowed (cs ++ ds) = true := by
  intro hd
  induction h with
  | nil => exact hd
  | @char c cs hc _ ih =>
    have hne : c ≠ '%' := by
      rintro rfl
      rw [hpercent] at hc
      cases hc
    rw [List.cons_append]
    unfold consistsOf
    split
    · rfl
    · rfl
    · next h => exact absurd (List.cons.inj h).1 hne
    · next h =>
      obtain ⟨rfl, rfl⟩ := List.cons.inj h
      rw [hc, ih, Bool.and_self]
  | triplet ha hb _ ih =>
    simp only [List.cons_append, consistsOf, ha, hb, ih, Bool.and_self]

/-- The check of a component accepts the lines of its class. -/
theorem consistsOf_iff (hpercent : allowed '%' = false) : consistsOf allowed cs = true ↔ LineOf allowed cs := by
  constructor
  · intro h
    fun_induction consistsOf allowed cs with
    | case1 => exact ⟨[], .nil, .inl rfl⟩
    | case2 => exact ⟨[], .nil, .inr rfl⟩
    | case3 a b cs ih =>
      simp only [Bool.and_eq_true] at h
      obtain ⟨ds, hds, hcs⟩ := ih h.2
      refine ⟨'%' :: a :: b :: ds, .triplet h.1.1 h.1.2 hds, ?_⟩
      rcases hcs with rfl | rfl
      · exact .inl rfl
      · exact .inr rfl
    | case4 c cs _ _ ih =>
      rw [Bool.and_eq_true] at h
      obtain ⟨ds, hds, hcs⟩ := ih h.2
      refine ⟨c :: ds, .char h.1 hds, ?_⟩
      rcases hcs with rfl | rfl
      · exact .inl rfl
      · exact .inr rfl
  · rintro ⟨ds, hds, rfl | rfl⟩
    · simpa using consistsOf_append hpercent hds [] rfl
    · exact consistsOf_append hpercent hds ['\n'] rfl

end MadeOf

/-! ## Schemes -/

/-- Whether a text is a scheme: a letter, then letters, digits, `+`, `-` and `.`. -/
def SchemeText (cs : List Char) : Prop := ∃ c ds, cs = c :: ds ∧ isLetter c = true ∧ ∀ d ∈ ds, isSchemeChar d = true

theorem isScheme_cons {c : Char} {cs : List Char} : isScheme (c :: cs) = true ↔
    isLetter c = true ∧ ∃ ds, (∀ d ∈ ds, isSchemeChar d = true) ∧ (cs = ds ∨ cs = ds ++ ['\n']) := by
  rw [isScheme, Bool.and_eq_true]
  apply and_congr_right
  intro _
  constructor
  · intro h
    split at h
    · next ds hds => exact ⟨ds.reverse, by simpa using h, .inr (List.reverse_eq_cons_iff.1 hds)⟩
    · exact ⟨cs, by simpa using h, .inl rfl⟩
  · rintro ⟨ds, hds, rfl | rfl⟩
    · split
      · next es hes =>
        rw [List.reverse_eq_cons_iff] at hes
        subst hes
        rw [List.all_eq_true]
        exact fun e he => hds e (by simp [he])
      · simpa using hds
    · simpa using hds

/-- A text has the form of a scheme if it is one, or one and a line feed at its end. -/
theorem isScheme_iff {cs : List Char} : isScheme cs = true ↔ ∃ ds, SchemeText ds ∧ (cs = ds ∨ cs = ds ++ ['\n']) := by
  cases cs with
  | nil => simp [isScheme, SchemeText]
  | cons c cs =>
    rw [isScheme_cons]
    constructor
    · rintro ⟨hc, ds, hds, hcs⟩
      exact ⟨c :: ds, ⟨c, ds, rfl, hc, hds⟩, by simpa using hcs⟩
    · rintro ⟨_, ⟨d, ds, rfl, hd, hds⟩, hcs⟩
      have hcons : c = d ∧ (cs = ds ∨ cs = ds ++ ['\n']) := by simpa [← and_or_left] using hcs
      exact ⟨hcons.1 ▸ hd, ds, hds, hcons.2⟩

theorem accepts_scheme_iff {cs : List Char} :
    Pattern.scheme.accepts cs = true ↔ ∃ ds, SchemeText ds ∧ (cs = ds ∨ cs = ds ++ ['\n']) := by
  rw [Pattern.accepts_iff]
  constructor
  · rintro ⟨rest, h⟩
    simp only [Pattern.scheme, Pattern.leaves_seq_iff, Pattern.leaves_char_iff, Pattern.leaves_atEnd_iff] at h
    obtain ⟨_, ⟨c, hc, rfl⟩, _, hstar, hrest, rfl⟩ := h
    obtain ⟨ds, hds, rfl⟩ := Pattern.leaves_star_char_iff.1 hstar
    refine ⟨c :: ds, ⟨c, ds, rfl, hc, hds⟩, ?_⟩
    rcases hrest with rfl | rfl
    · exact .inl (by rw [List.append_nil])
    · exact .inr rfl
  · rintro ⟨_, ⟨c, ds, rfl, hc, hds⟩, rfl | rfl⟩
    · exact ⟨[], .seq (.char hc) (.seq (Pattern.leaves_star_char_iff.2 ⟨ds, hds, (List.append_nil ds).symm⟩)
        (.atEnd (.inl rfl)))⟩
    · exact ⟨['\n'], .seq (.char hc) (.seq (Pattern.leaves_star_char_iff.2 ⟨ds, hds, rfl⟩) (.atEnd (.inr rfl)))⟩

/-! ## The components of a reference -/

/-- Each component is a line of its class. -/
structure Parts.Lines (p : Parts) : Prop where
  scheme : ∀ s ∈ p.scheme, ∃ ds, SchemeText ds ∧ (s = ds ∨ s = ds ++ ['\n'])
  authority : ∀ a ∈ p.authority, LineOf isAuthorityChar a
  path : LineOf isPathChar p.path
  query : ∀ q ∈ p.query, LineOf isFragmentChar q
  fragment : ∀ f ∈ p.fragment, LineOf isFragmentChar f

/-- There is no problem with a component that is absent or passes its check. -/
theorem check_eq_none {part : Part} {ok : List Char → Bool} {o : Option (List Char)} :
    check part ok o = none ↔ ∀ cs ∈ o, ok cs = true := by
  cases o with
  | none => simp [check]
  | some cs =>
    rw [check]
    split <;> simp_all

theorem problem?_eq_none_iff {p : Parts} : p.problem? = none ↔ p.Lines := by
  have hauthority : isAuthorityChar '%' = false := by decide
  have hpath : isPathChar '%' = false := by decide
  have hfragment : isFragmentChar '%' = false := by decide
  simp only [Parts.problem?, Option.or_eq_none_iff, check_eq_none, consistsOf_iff hauthority, consistsOf_iff hpath,
    consistsOf_iff hfragment, isScheme_iff]
  constructor
  · rintro ⟨hs, ha, hp, hq, hf⟩
    exact ⟨hs, ha, hp _ rfl, hq, hf⟩
  · rintro ⟨hs, ha, hp, hq, hf⟩
    exact ⟨hs, ha, by simpa using hp, hq, hf⟩

/-- The components are lines of their classes if the patterns accept them. -/
theorem lines_iff_accepts {p : Parts} : p.Lines ↔ ∀ part, ∀ cs ∈ p.captures part, part.pattern.accepts cs = true := by
  constructor
  · rintro ⟨hs, ha, hp, hq, hf⟩ part cs hcs
    cases part with
    | scheme => exact accepts_scheme_iff.2 (hs cs hcs)
    | authority => exact accepts_component_iff.2 (ha cs hcs)
    | path =>
      cases hcs
      exact accepts_component_iff.2 hp
    | query => exact accepts_component_iff.2 (hq cs hcs)
    | fragment => exact accepts_component_iff.2 (hf cs hcs)
  · intro h
    exact {
      scheme := fun s hs => accepts_scheme_iff.1 (h .scheme s hs)
      authority := fun a ha => accepts_component_iff.1 (h .authority a ha)
      path := accepts_component_iff.1 (h .path p.path rfl)
      query := fun q hq => accepts_component_iff.1 (h .query q hq)
      fragment := fun f hf => accepts_component_iff.1 (h .fragment f hf) }

/-- **A text is read as a reference if its components are lines of their classes.** -/
theorem parse_ok_iff_lines {s : String} : (∃ u, parse s = .ok u) ↔ (split s.toList).Lines := by
  rw [parse_ok_iff, Accepts, problem?_eq_none_iff]

/-- A text is read as a reference if the reference pattern matches it and the pattern of each component what was matched
    of it. -/
theorem parse_ok_iff_accepts {s : String} : (∃ u, parse s = .ok u) ↔ ∃ g, Pattern.reference.match? s.toList = some g ∧
    ∀ part, ∀ cs ∈ g part, part.pattern.accepts cs = true := by
  simp [parse_ok_iff_lines, lines_iff_accepts, Pattern.match?_reference]

/-! ## The characters of a reference -/

/-- The characters that mark off components, and the sub-delimiters. -/
def isReserved (c : Char) : Bool := [':', '/', '?', '#', '[', ']', '@'].contains c || isSubDelimiter c

/-- The characters of a reference, percent triplets aside. -/
def isUriChar (c : Char) : Bool := isUnreserved c || isReserved c

theorem isUriChar_of_authority {c : Char} (h : isAuthorityChar c = true) : isUriChar c = true := by
  simp [isAuthorityChar, isUriChar, isReserved] at h ⊢
  grind

theorem isUriChar_of_fragment {c : Char} (h : isFragmentChar c = true) : isUriChar c = true := by
  simp [isFragmentChar, isPathChar, isUriChar, isReserved] at h ⊢
  grind

theorem isUriChar_of_path {c : Char} (h : isPathChar c = true) : isUriChar c = true :=
  isUriChar_of_fragment (by simp [isFragmentChar, h])

theorem isUriChar_of_scheme {c : Char} (h : isSchemeChar c = true) : isUriChar c = true := by
  simp [isSchemeChar, isUriChar, isUnreserved, isReserved, isSubDelimiter] at h ⊢
  grind

/-- No character of a reference is a line feed. -/
theorem not_line_feed_of_madeOf {cs : List Char} (h : MadeOf isUriChar cs) : '\n' ∉ cs :=
  h.not_mem (by decide) (by decide) (by decide)

theorem SchemeText.madeOf {cs : List Char} (h : SchemeText cs) : MadeOf isUriChar cs := by
  obtain ⟨c, ds, rfl, hc, hds⟩ := h
  have hletter : isUriChar c = true := by simp [isUriChar, isUnreserved, hc]
  exact .char hletter (madeOf_of_all fun d hd => isUriChar_of_scheme (hds d hd))

/-- A line without a line feed is made of the characters of its class. -/
theorem LineOf.madeOf {allowed : Char → Bool} {cs : List Char} (h : LineOf allowed cs) (hcs : '\n' ∉ cs)
    (hsub : ∀ c, allowed c = true → isUriChar c = true) : MadeOf isUriChar cs := by
  obtain ⟨ds, hds, rfl | rfl⟩ := h
  · exact hds.mono hsub
  · simp at hcs

theorem madeOf_marked {mark : List Char} {o : Option (List Char)} (hmark : mark.all isUriChar = true)
    (ho : ∀ cs ∈ o, MadeOf isUriChar cs) : MadeOf isUriChar (marked mark o) := by
  cases o with
  | none => exact .nil
  | some cs => exact (madeOf_of_all (List.all_eq_true.1 hmark)).append (ho cs rfl)

theorem mem_marked {mark cs : List Char} {o : Option (List Char)} {c : Char} (hcs : cs ∈ o) (hc : c ∈ cs) :
    c ∈ marked mark o := by
  cases hcs
  exact List.mem_append_right mark hc

/-- Lines without a line feed make up a text of RFC 3986. -/
theorem Parts.Lines.rfc {p : Parts} (h : p.Lines) (hp : '\n' ∉ p.join) :
    MadeOf isUriChar p.join ∧ ∀ s ∈ p.scheme, SchemeText s := by
  rw [Parts.join_eq] at hp ⊢
  simp only [List.mem_append, not_or] at hp
  obtain ⟨hs, ha, hpath, hq, hf⟩ := hp
  have hscheme : ∀ s ∈ p.scheme, SchemeText s := by
    intro s hmem
    obtain ⟨ds, hds, rfl | rfl⟩ := h.scheme s hmem
    · exact hds
    · simp [Option.mem_def.1 hmem, schemeText] at hs
  have hschemeText : MadeOf isUriChar (schemeText p.scheme) := by
    cases hmem : p.scheme with
    | none => exact .nil
    | some s => exact (hscheme s hmem).madeOf.append (.char (by decide) .nil)
  refine ⟨hschemeText.append (.append ?_ (.append ?_ (.append ?_ ?_))), hscheme⟩
  · exact madeOf_marked (by decide) fun a hmem => (h.authority a hmem).madeOf (fun hn => ha (mem_marked hmem hn))
      fun _ => isUriChar_of_authority
  · exact h.path.madeOf hpath fun _ => isUriChar_of_path
  · exact madeOf_marked (by decide) fun q hmem => (h.query q hmem).madeOf (fun hn => hq (mem_marked hmem hn))
      fun _ => isUriChar_of_fragment
  · exact madeOf_marked (by decide) fun f hmem => (h.fragment f hmem).madeOf (fun hn => hf (mem_marked hmem hn))
      fun _ => isUriChar_of_fragment

theorem parse_error_text {s : String} {e : Invalid} (h : parse s = .error e) : e.text = s := by
  unfold parse at h
  split at h
  · cases h
  · cases h
    rfl

theorem decodeData_uri_ok {s : String} {u : Uri} (h : parse s = .ok u) : decodeData .uri (.str s) = .ok (.uri u) := by
  rw [decodeData, decode, decodeUri, h]
  rfl

theorem decodeData_uri_error {s : String} {e : Invalid} (h : parse s = .error e) : decodeData .uri (.str s) =
    .error [⟨.invalidPrimitive, "$", "Input should be a valid URI: " ++ e.problem.reason⟩] := by
  rw [decodeData, decode, decodeUri, h]
  rfl

/-- **What is read as a reference is a text of RFC 3986 exactly if it has no line feed.** A text is read if each of its
    components is a line of its class, which is what the pattern of the component accepts, by itself and at the type of
    references; any other is an invalid reference. -/
theorem rfc_iff_no_line_feed (s : String) :
    ((∃ u, parse s = .ok u) ↔ (split s.toList).Lines) ∧
    ((∃ u, parse s = .ok u) ↔ ∃ g, Pattern.reference.match? s.toList = some g ∧
      ∀ part, ∀ cs ∈ g part, part.pattern.accepts cs = true) ∧
    (∀ u, parse s = .ok u → u.text = s ∧ decodeData .uri (.str s) = .ok (.uri u) ∧
      ((MadeOf isUriChar s.toList ∧ ∀ t ∈ u.parts.scheme, SchemeText t) ↔ '\n' ∉ s.toList)) ∧
    ((∀ u, parse s ≠ .ok u) → ∃ e, parse s = .error e ∧ e.text = s ∧ decodeData .uri (.str s) =
      .error [⟨.invalidPrimitive, "$", "Input should be a valid URI: " ++ e.problem.reason⟩]) := by
  refine ⟨parse_ok_iff_lines, parse_ok_iff_accepts, fun u hu => ?_, fun hs => ?_⟩
  · have hlines : (split s.toList).Lines := parse_ok_iff_lines.1 ⟨u, hu⟩
    have hrfc := hlines.rfc
    have htext := parse_eq_ok.1 hu
    rw [join_split] at hrfc
    refine ⟨htext, decodeData_uri_ok hu, fun h => not_line_feed_of_madeOf h.1, fun h => ?_⟩
    rw [parts, htext]
    exact hrfc h
  · cases he : parse s with
    | ok u => exact absurd he (hs u)
    | error e => exact ⟨e, rfl, parse_error_text he, decodeData_uri_error he⟩

theorem file_reference_is_rfc : ∃ u, parse "file:///a%20b?q#f" = .ok u ∧ '\n' ∉ "file:///a%20b?q#f".toList ∧
    MadeOf isUriChar "file:///a%20b?q#f".toList := by
  obtain ⟨u, hu⟩ := parse_ok_iff.2 (show (split "file:///a%20b?q#f".toList).problem? = none by decide +kernel)
  have hline : '\n' ∉ "file:///a%20b?q#f".toList := by decide +kernel
  obtain ⟨-, -, hrfc⟩ := (rfc_iff_no_line_feed "file:///a%20b?q#f").2.2.1 u hu
  exact ⟨u, hu, hline, (hrfc.2 hline).1⟩

/-- A line feed at the end of the path is read, and so is one at the end of the scheme. -/
theorem line_feed_is_read :
    (∃ u, parse "a\n" = .ok u ∧ decodeData .uri (.str "a\n") = .ok (.uri u)) ∧ ¬ MadeOf isUriChar "a\n".toList ∧
    ∃ u, parse "a\n:b" = .ok u ∧ u.parts.scheme = some ['a', '\n'] ∧ ¬ SchemeText ['a', '\n'] := by
  obtain ⟨u, hu⟩ := parse_ok_iff.2 (show (split "a\n".toList).problem? = none by decide +kernel)
  obtain ⟨v, hv⟩ := parse_ok_iff.2 (show (split "a\n:b".toList).problem? = none by decide +kernel)
  have hscheme : v.parts.scheme = some ['a', '\n'] := by
    rw [parts, parse_eq_ok.1 hv]
    decide +kernel
  have hnot : ¬ SchemeText ['a', '\n'] := fun h => not_line_feed_of_madeOf h.madeOf (by decide)
  exact ⟨⟨u, hu, decodeData_uri_ok hu⟩, fun h => not_line_feed_of_madeOf h (by decide +kernel), v, hv, hscheme, hnot⟩

end LspWire.Uri
