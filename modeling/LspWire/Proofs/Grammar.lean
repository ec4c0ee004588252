import LspWire.Proofs.Characters
import LspWire.Uri.Grammar
import Mathlib.Order.CompletePartialOrder

/-!
# References of the grammar

Components that are lines of their classes and whose path is not read otherwise are read back from the text that they
make up (`parse_join`). The texts of RFC 3986's grammar are made up of such components (`exists_parts_of_uriReference`):
its productions are languages of texts made of the characters of a class. So every reference of the grammar is read.
-/

namespace LspWire.Uri

open scoped Computability

/-! ## Components that are read back -/

/-- A line of a class holds no other characters than those of the class and of triplets, and a line feed. -/
theorem LineOf.not_mem {allowed : Char → Bool} {cs stops : List Char} (h : LineOf allowed cs)
    (hstops : (stops.all fun c => !allowed c && c != '%' && !isHex c && c != '\n') = true) : ∀ c ∈ cs, c ∉ stops := by
  intro c hc hstop
  obtain ⟨⟨⟨hallowed, hpercent⟩, hhex⟩, hline⟩ : ((allowed c = false ∧ c ≠ '%') ∧ isHex c = false) ∧ c ≠ '\n' := by
    simpa using List.all_eq_true.1 hstops c hstop
  obtain ⟨ds, hds, hcs⟩ := h
  have hmem : c ∈ ds := by
    rcases hcs with rfl | rfl
    · exact hc
    · simpa [hline] using hc
  exact hds.not_mem hallowed hpercent hhex hmem

/-- A scheme is a line of its characters. -/
theorem lineOf_of_scheme {s ds : List Char} (hds : SchemeText ds) (hs : s = ds ∨ s = ds ++ ['\n']) :
    s ≠ [] ∧ LineOf isSchemeChar s := by
  obtain ⟨c, ds, rfl, hc, hall⟩ := hds
  have hletter : isSchemeChar c = true := by simp [isSchemeChar, hc]
  have hmade : MadeOf isSchemeChar (c :: ds) := madeOf_of_all (List.forall_mem_cons.2 ⟨hletter, hall⟩)
  refine ⟨?_, c :: ds, hmade, hs⟩
  rcases hs with rfl | rfl <;> simp

/-- Lines of the classes hold no character that ends a component. -/
theorem Parts.Lines.separate {p : Parts} (h : p.Lines) : p.Separate where
  scheme s hs := by
    obtain ⟨ds, hds, hcs⟩ := h.scheme s hs
    obtain ⟨hne, hline⟩ := lineOf_of_scheme hds hcs
    exact ⟨hne, hline.not_mem (by decide)⟩
  authority a ha := (h.authority a ha).not_mem (by decide)
  path := h.path.not_mem (by decide)
  query q hq := (h.query q hq).not_mem (by decide)

/-- **Components that are lines of their classes are read back from the text that they make up.** -/
theorem parse_join {p : Parts} (h : p.Lines) (hu : p.Unambiguous) :
    ∃ u, parse (String.ofList p.join) = .ok u ∧ u.parts = p := by
  have hsplit : split (String.ofList p.join).toList = p := by rw [String.toList_ofList, split_join h.separate hu]
  obtain ⟨u, hparse⟩ := parse_ok_iff_lines.2 (hsplit.symm ▸ h)
  exact ⟨u, hparse, by rw [parts, parse_eq_ok.1 hparse, hsplit]⟩

namespace Grammar

/-! ## Languages of texts made of characters of a class -/

/-- The texts made of characters of a class and of percent triplets. -/
def made (allowed : Char → Bool) : Language Char := {cs | MadeOf allowed cs}

section Made

variable {allowed : Char → Bool} {k l : Language Char}

theorem one_le_made : 1 ≤ made allowed := by
  rintro cs rfl
  exact .nil

theorem mul_le_made (hk : k ≤ made allowed) (hl : l ≤ made allowed) : k * l ≤ made allowed := by
  rintro _ ⟨a, ha, b, hb, rfl⟩
  exact (hk ha).append (hl hb)

theorem optional_le_made (h : l ≤ made allowed) : optional l ≤ made allowed := add_le one_le_made h

theorem kstar_le_made (h : l ≤ made allowed) : l∗ ≤ made allowed :=
  kstar_le_of_mul_le_left one_le_made (mul_le_made le_rfl h)

theorem many_le_made (h : l ≤ made allowed) : many l ≤ made allowed := mul_le_made h (kstar_le_made h)

theorem pow_le_made (h : l ≤ made allowed) (n : Nat) : l ^ n ≤ made allowed := pow_le_kstar.trans (kstar_le_made h)

theorem chars_le_made {sub : Char → Bool} (h : ∀ c, sub c = true → allowed c = true) : chars sub ≤ made allowed := by
  rintro _ ⟨c, hc, rfl⟩
  exact .char (h c hc) .nil

theorem lit_le_made {cs : List Char} (h : cs.all allowed = true) : lit cs ≤ made allowed := by
  rintro _ rfl
  exact madeOf_of_all (List.all_eq_true.1 h)

theorem pctEncoded_le_made : pctEncoded ≤ made allowed := by
  rintro _ ⟨_, rfl, _, ⟨_, ⟨a, ha, rfl⟩, _, ⟨b, hb, rfl⟩, rfl⟩, rfl⟩
  exact .triplet ha hb .nil

/-- Digits and what lies between two of them. -/
theorem between_le_digit {a b : Char} (ha : '0' ≤ a) (hb : b ≤ '9') : between a b ≤ chars isDigit := by
  rintro _ ⟨c, hc, rfl⟩
  rw [Bool.and_eq_true, decide_eq_true_eq, decide_eq_true_eq] at hc
  exact ⟨c, by simpa [isDigit] using ⟨Char.le_trans ha hc.1, Char.le_trans hc.2 hb⟩, rfl⟩

end Made

/-! ## Schemes and authorities -/

theorem schemeText_of_scheme {cs : List Char} (h : cs ∈ scheme) : SchemeText cs := by
  obtain ⟨_, ⟨c, hc, rfl⟩, ds, hds, rfl⟩ := h
  obtain ⟨pieces, rfl, hpieces⟩ := Language.mem_kstar.1 hds
  refine ⟨c, pieces.flatten, rfl, hc, fun d hd => ?_⟩
  obtain ⟨piece, hpiece, hd⟩ := List.mem_flatten.1 hd
  -- each piece is one character
  rcases hpieces piece hpiece with (((⟨e, he, rfl⟩ | ⟨e, he, rfl⟩) | rfl) | rfl) | rfl
  · simp_all [isSchemeChar]
  · simp_all [isSchemeChar]
  all_goals
    rw [List.mem_singleton] at hd
    subst hd
    decide

theorem regChar_le_made {allowed : Char → Bool} (hu : ∀ c, isUnreserved c = true → allowed c = true)
    (hs : ∀ c, isSubDelimiter c = true → allowed c = true) : regChar ≤ made allowed :=
  add_le (add_le (chars_le_made hu) pctEncoded_le_made) (chars_le_made hs)

theorem isUnreserved_of_hex {c : Char} (h : isHex c = true) : isUnreserved c = true := by
  have hf : c ≤ 'f' → c ≤ 'z' := fun h => Char.le_trans h (by decide)
  have hF : c ≤ 'F' → c ≤ 'Z' := fun h => Char.le_trans h (by decide)
  simp [isHex, isUnreserved, isLetter] at h ⊢
  grind

theorem unreserved_le_authority : chars isUnreserved ≤ made isAuthorityChar :=
  chars_le_made fun c hc => by simp [isAuthorityChar, hc]

theorem subDelimiter_le_authority : chars isSubDelimiter ≤ made isAuthorityChar :=
  chars_le_made fun c hc => by simp [isAuthorityChar, hc]

theorem regChar_le_authority : regChar ≤ made isAuthorityChar :=
  regChar_le_made (fun c hc => by simp [isAuthorityChar, hc]) fun c hc => by simp [isAuthorityChar, hc]

theorem hex_le_authority : chars isHex ≤ made isAuthorityChar :=
  chars_le_made fun c hc => by simp [isAuthorityChar, isUnreserved_of_hex hc]

theorem digit_le_authority : chars isDigit ≤ made isAuthorityChar :=
  chars_le_made fun c hc => by simp [isAuthorityChar, isUnreserved, hc]

theorem ipv4Address_le_authority : ipv4Address ≤ made isAuthorityChar := by
  have hd := digit_le_authority
  have h9 : between '1' '9' ≤ made isAuthorityChar := (between_le_digit (by decide) (by decide)).trans hd
  have h4 : between '0' '4' ≤ made isAuthorityChar := (between_le_digit (by decide) (by decide)).trans hd
  have h5 : between '0' '5' ≤ made isAuthorityChar := (between_le_digit (by decide) (by decide)).trans hd
  have hoctet : decOctet ≤ made isAuthorityChar := by
    refine add_le (add_le (add_le (add_le hd ?_) ?_) ?_) ?_
    · exact mul_le_made h9 hd
    · exact mul_le_made (lit_le_made (by decide)) (pow_le_made hd 2)
    · exact mul_le_made (lit_le_made (by decide)) (mul_le_made h4 hd)
    · exact mul_le_made (lit_le_made (by decide)) h5
  exact mul_le_made hoctet (pow_le_made (mul_le_made (lit_le_made (by decide)) hoctet) 3)

theorem h16_le_authority : h16 ≤ made isAuthorityChar :=
  mul_le_made hex_le_authority (pow_le_made (optional_le_made hex_le_authority) 3)

theorem pieces_le_authority (n : Nat) : pieces n ≤ made isAuthorityChar :=
  pow_le_made (mul_le_made h16_le_authority (lit_le_made (by decide))) n

theorem piecesUpTo_le_authority (n : Nat) : piecesUpTo n ≤ made isAuthorityChar := by
  have hpiece : h16 * lit [':'] ≤ made isAuthorityChar := mul_le_made h16_le_authority (lit_le_made (by decide))
  exact optional_le_made (mul_le_made (pow_le_made (optional_le_made hpiece) n) h16_le_authority)

theorem ipv6Address_le_authority : ipv6Address ≤ made isAuthorityChar := by
  have hls : ls32 ≤ made isAuthorityChar :=
    add_le (mul_le_made h16_le_authority (mul_le_made (lit_le_made (by decide)) h16_le_authority))
      ipv4Address_le_authority
  have hcolons : lit [':', ':'] ≤ made isAuthorityChar := lit_le_made (by decide)
  have hwith (n : Nat) {l : Language Char} (hl : l ≤ made isAuthorityChar) :
      piecesUpTo n * (lit [':', ':'] * l) ≤ made isAuthorityChar :=
    mul_le_made (piecesUpTo_le_authority n) (mul_le_made hcolons hl)
  have hrest (n : Nat) : pieces n * ls32 ≤ made isAuthorityChar := mul_le_made (pieces_le_authority n) hls
  refine add_le (add_le (add_le (add_le (add_le (add_le (add_le (add_le (hrest 6) ?_) ?_) ?_) ?_) ?_) ?_) ?_) ?_
  · exact mul_le_made hcolons (hrest 5)
  · exact hwith 0 (hrest 4)
  · exact hwith 1 (hrest 3)
  · exact hwith 2 (hrest 2)
  · exact hwith 3 (hrest 1)
  · exact hwith 4 hls
  · exact hwith 5 h16_le_authority
  · exact mul_le_made (piecesUpTo_le_authority 6) hcolons

theorem ipvFuture_le_authority : ipvFuture ≤ made isAuthorityChar := by
  have hname : chars isUnreserved + chars isSubDelimiter + lit [':'] ≤ made isAuthorityChar :=
    add_le (add_le unreserved_le_authority subDelimiter_le_authority) (lit_le_made (by decide))
  exact mul_le_made (add_le (lit_le_made (by decide)) (lit_le_made (by decide)))
    (mul_le_made (many_le_made hex_le_authority) (mul_le_made (lit_le_made (by decide)) (many_le_made hname)))

/-- An authority is made of the characters of its class. -/
theorem authority_le_made : authority ≤ made isAuthorityChar := by
  have hliteral : ipLiteral ≤ made isAuthorityChar :=
    mul_le_made (lit_le_made (by decide)) (mul_le_made (add_le ipv6Address_le_authority ipvFuture_le_authority)
      (lit_le_made (by decide)))
  have hhost : host ≤ made isAuthorityChar :=
    add_le (add_le hliteral ipv4Address_le_authority) (kstar_le_made regChar_le_authority)
  have huserinfo : userinfo ≤ made isAuthorityChar :=
    kstar_le_made (add_le regChar_le_authority (lit_le_made (by decide)))
  have hport : lit [':'] * (chars isDigit)∗ ≤ made isAuthorityChar :=
    mul_le_made (lit_le_made (by decide)) (kstar_le_made digit_le_authority)
  exact mul_le_made (optional_le_made (mul_le_made huserinfo (lit_le_made (by decide))))
    (mul_le_made hhost (optional_le_made hport))

/-! ## Paths -/

/-- The characters of a segment. -/
def isPchar (c : Char) : Bool := isUnreserved c || isSubDelimiter c || [':', '@'].contains c

/-- The characters of a segment without a colon. -/
def isPcharNc (c : Char) : Bool := isUnreserved c || isSubDelimiter c || c == '@'

theorem isPathChar_of_pchar (c : Char) (h : isPchar c = true) : isPathChar c = true := by
  simp [isPchar, isPathChar] at h ⊢
  grind

theorem isPathChar_of_pcharNc (c : Char) (h : isPcharNc c = true) : isPathChar c = true := by
  simp [isPcharNc, isPathChar] at h ⊢
  grind

theorem pchar_le_made : pchar ≤ made isPchar :=
  add_le (add_le (regChar_le_made (fun c hc => by simp [isPchar, hc]) fun c hc => by simp [isPchar, hc])
    (lit_le_made (by decide))) (lit_le_made (by decide))

theorem pcharNc_le_made : regChar + lit ['@'] ≤ made isPcharNc :=
  add_le (regChar_le_made (fun c hc => by simp [isPcharNc, hc]) fun c hc => by simp [isPcharNc, hc])
    (lit_le_made (by decide))

theorem made_mono {allowed more : Char → Bool} (h : ∀ c, allowed c = true → more c = true) :
    made allowed ≤ made more := fun _ hcs => MadeOf.mono hcs h

theorem ne_nil_of_regChar {cs : List Char} (h : cs ∈ regChar) : cs ≠ [] := by
  rcases h with (⟨c, -, rfl⟩ | ⟨_, rfl, ds, -, rfl⟩) | ⟨c, -, rfl⟩ <;> simp

theorem ne_nil_of_many {l : Language Char} {cs : List Char} (hl : ∀ ds ∈ l, ds ≠ []) (h : cs ∈ many l) : cs ≠ [] := by
  obtain ⟨a, ha, b, -, rfl⟩ := h
  simp [hl a ha]

/-- A first segment: a text without a slash that is not empty. -/
theorem segmentNz_cases {cs : List Char} (h : cs ∈ segmentNz) : cs ≠ [] ∧ MadeOf isPathChar cs ∧ '/' ∉ cs := by
  have hpchar : ∀ ds ∈ pchar, ds ≠ [] := by
    rintro ds ((hds | rfl) | rfl)
    · exact ne_nil_of_regChar hds
    all_goals simp
  have hmade : MadeOf isPchar cs := many_le_made pchar_le_made h
  exact ⟨ne_nil_of_many hpchar h, hmade.mono isPathChar_of_pchar, hmade.not_mem (by decide) (by decide) (by decide)⟩

/-- A first segment that cannot be taken for a scheme. -/
theorem segmentNzNc_cases {cs : List Char} (h : cs ∈ segmentNzNc) :
    cs ≠ [] ∧ MadeOf isPathChar cs ∧ '/' ∉ cs ∧ ':' ∉ cs := by
  have hpchar : ∀ ds ∈ regChar + lit ['@'], ds ≠ [] := by
    rintro ds (hds | rfl)
    · exact ne_nil_of_regChar hds
    · simp
  have hmade : MadeOf isPcharNc cs := many_le_made pcharNc_le_made h
  exact ⟨ne_nil_of_many hpchar h, hmade.mono isPathChar_of_pcharNc, hmade.not_mem (by decide) (by decide) (by decide),
    hmade.not_mem (by decide) (by decide) (by decide)⟩

/-- Further segments: nothing, or a text that starts with a slash. -/
theorem pathAbempty_cases {cs : List Char} (h : cs ∈ pathAbempty) : MadeOf isPathChar cs ∧ Stopped ['/'] cs := by
  have hsegment : segment ≤ made isPathChar := kstar_le_made (pchar_le_made.trans (made_mono isPathChar_of_pchar))
  have hmade : pathAbempty ≤ made isPathChar := kstar_le_made (mul_le_made (lit_le_made (by decide)) hsegment)
  refine ⟨hmade h, ?_⟩
  obtain ⟨pieces, rfl, hpieces⟩ := Language.mem_kstar.1 h
  cases pieces with
  | nil => simp
  | cons piece pieces =>
    obtain ⟨_, rfl, seg, -, rfl⟩ := hpieces piece (by simp)
    simp

theorem not_slashes {seg rest : List Char} (hne : seg ≠ []) (hseg : '/' ∉ seg) : ¬ ['/', '/'] <+: seg ++ rest := by
  rintro ⟨ds, hds⟩
  cases seg with
  | nil => exact hne rfl
  | cons c seg =>
    obtain ⟨rfl, -⟩ := List.cons.inj hds
    exact hseg (by simp)

/-- What a path of a reference without an authority is: it does not start with two slashes. -/
def Plain (path : List Char) : Prop := MadeOf isPathChar path ∧ ¬ ['/', '/'] <+: path

theorem plain_of_pathAbsolute {cs : List Char} (h : cs ∈ pathAbsolute) : Plain cs ∧ ':' ∉ before ['/'] cs := by
  obtain ⟨_, rfl, ds, hds, rfl⟩ := h
  have hslash : MadeOf isPathChar ['/'] := .char (by decide) .nil
  rcases hds with rfl | ⟨seg, hseg, rest, hrest, rfl⟩
  · exact ⟨⟨hslash, by decide⟩, by decide⟩
  · obtain ⟨hne, hmade, hno⟩ := segmentNz_cases hseg
    refine ⟨⟨hslash.append (hmade.append (pathAbempty_cases hrest).1), ?_⟩, by simp [before]⟩
    cases seg with
    | nil => exact absurd rfl hne
    | cons c seg =>
      rintro ⟨_, hstart⟩
      simp only [List.cons_append, List.nil_append, List.cons.injEq, true_and] at hstart
      exact hno (hstart.1 ▸ List.mem_cons_self)

theorem plain_of_pathRootless {cs : List Char} (h : cs ∈ pathRootless) : Plain cs := by
  obtain ⟨seg, hseg, rest, hrest, rfl⟩ := h
  obtain ⟨hne, hmade, hno⟩ := segmentNz_cases hseg
  exact ⟨hmade.append (pathAbempty_cases hrest).1, not_slashes hne hno⟩

theorem plain_of_pathNoscheme {cs : List Char} (h : cs ∈ pathNoscheme) : Plain cs ∧ ':' ∉ before ['/'] cs := by
  obtain ⟨seg, hseg, rest, hrest, rfl⟩ := h
  obtain ⟨hne, hmade, hno, hcolon⟩ := segmentNzNc_cases hseg
  obtain ⟨hrestMade, hstop⟩ := pathAbempty_cases hrest
  have hbefore : before ['/'] (seg ++ rest) = seg :=
    before_of_stopped (fun c hc => by rintro hmem; exact hno (List.mem_singleton.1 hmem ▸ hc)) hstop
  exact ⟨⟨hmade.append hrestMade, not_slashes hne hno⟩, hbefore.symm ▸ hcolon⟩

/-! ## References -/

/-- What stands between a scheme and a query. -/
structure Body (a : Option (List Char)) (cs : List Char) : Prop where
  authority : ∀ b ∈ a, MadeOf isAuthorityChar b
  path : MadeOf isPathChar cs
  rooted : a.isSome = true → Stopped ['/'] cs
  slashes : a = none → ¬ ['/', '/'] <+: cs

theorem body_of_plain {path : List Char} (h : Plain path) : Body none path :=
  ⟨by simp, h.1, by simp, fun _ => h.2⟩

theorem body_of_authority {cs : List Char} (h : cs ∈ lit ['/', '/'] * (authority * pathAbempty)) :
    ∃ a path, cs = marked ['/', '/'] (some a) ++ path ∧ Body (some a) path := by
  obtain ⟨_, rfl, _, ⟨a, ha, path, hpath, rfl⟩, rfl⟩ := h
  obtain ⟨hmade, hstop⟩ := pathAbempty_cases hpath
  have hauthority : MadeOf isAuthorityChar a := authority_le_made ha
  exact ⟨a, path, rfl, by simpa using hauthority, hmade, fun _ => hstop, by simp⟩

/-- What follows a scheme. -/
theorem body_of_hierPart {cs : List Char} (h : cs ∈ hierPart) :
    ∃ a path, cs = marked ['/', '/'] a ++ path ∧ Body a path := by
  rcases h with ((h | h) | h) | rfl
  · obtain ⟨a, path, hcs, hbody⟩ := body_of_authority h
    exact ⟨some a, path, hcs, hbody⟩
  · exact ⟨none, cs, rfl, body_of_plain (plain_of_pathAbsolute h).1⟩
  · exact ⟨none, cs, rfl, body_of_plain (plain_of_pathRootless h)⟩
  · exact ⟨none, [], rfl, body_of_plain ⟨.nil, by decide⟩⟩

/-- What a relative reference starts with: the first segment has no colon that could end a scheme. -/
theorem body_of_relativePart {cs : List Char} (h : cs ∈ relativePart) :
    ∃ a path, cs = marked ['/', '/'] a ++ path ∧ Body a path ∧ (a = none → ':' ∉ before ['/'] path) := by
  rcases h with ((h | h) | h) | rfl
  · obtain ⟨a, path, hcs, hbody⟩ := body_of_authority h
    exact ⟨some a, path, hcs, hbody, by simp⟩
  · obtain ⟨hplain, hcolon⟩ := plain_of_pathAbsolute h
    exact ⟨none, cs, rfl, body_of_plain hplain, fun _ => hcolon⟩
  · obtain ⟨hplain, hcolon⟩ := plain_of_pathNoscheme h
    exact ⟨none, cs, rfl, body_of_plain hplain, fun _ => hcolon⟩
  · exact ⟨none, [], rfl, body_of_plain ⟨.nil, by decide⟩, by decide⟩

theorem query_le_made : query ≤ made isFragmentChar := by
  have hpchar : pchar ≤ made isFragmentChar :=
    pchar_le_made.trans (made_mono fun c hc => by simp [isFragmentChar, isPathChar_of_pchar c hc])
  exact kstar_le_made (add_le (add_le hpchar (lit_le_made (by decide))) (lit_le_made (by decide)))

theorem marked_of_optional {mark cs : List Char} (h : cs ∈ optional (lit mark * query)) :
    ∃ o, cs = marked mark o ∧ ∀ ds ∈ o, MadeOf isFragmentChar ds := by
  rcases h with rfl | ⟨_, rfl, q, hq, rfl⟩
  · exact ⟨none, rfl, by simp⟩
  · have hmade : MadeOf isFragmentChar q := query_le_made hq
    exact ⟨some q, rfl, by simpa using hmade⟩

/-- Components of the grammar are lines of their classes, and the path is not read otherwise. -/
theorem lines_of_body {p : Parts} (hs : ∀ s ∈ p.scheme, SchemeText s) (hbody : Body p.authority p.path)
    (hrelative : p.scheme = none → p.authority = none → ':' ∉ before ['/'] p.path)
    (hq : ∀ q ∈ p.query, MadeOf isFragmentChar q) (hf : ∀ f ∈ p.fragment, MadeOf isFragmentChar f) :
    p.Lines ∧ p.Unambiguous where
  left := {
    scheme := fun s hmem => ⟨s, hs s hmem, .inl rfl⟩
    authority := fun a hmem => ⟨a, hbody.authority a hmem, .inl rfl⟩
    path := ⟨p.path, hbody.path, .inl rfl⟩
    query := fun q hmem => ⟨q, hq q hmem, .inl rfl⟩
    fragment := fun f hmem => ⟨f, hf f hmem, .inl rfl⟩ }
  right := ⟨hbody.rooted, hbody.slashes, hrelative⟩

/-- **A text of the grammar is made up of components that are lines of their classes and whose path is not read
    otherwise.** -/
theorem exists_parts_of_uriReference {cs : List Char} (h : cs ∈ uriReference) :
    ∃ p : Parts, p.join = cs ∧ p.Lines ∧ p.Unambiguous := by
  rcases h with ⟨s, hs, _, ⟨_, rfl, _, ⟨_, hhier, _, ⟨_, hq, _, hf, rfl⟩, rfl⟩, rfl⟩, rfl⟩ |
    ⟨_, hrel, _, ⟨_, hq, _, hf, rfl⟩, rfl⟩
  · obtain ⟨a, path, rfl, hbody⟩ := body_of_hierPart hhier
    obtain ⟨q, rfl, hquery⟩ := marked_of_optional hq
    obtain ⟨f, rfl, hfragment⟩ := marked_of_optional hf
    refine ⟨⟨some s, a, path, q, f⟩, ?_, lines_of_body ?_ hbody (by simp) hquery hfragment⟩
    · simp [Parts.join_eq, schemeText]
    · simpa using schemeText_of_scheme hs
  · obtain ⟨a, path, rfl, hbody, hcolon⟩ := body_of_relativePart hrel
    obtain ⟨q, rfl, hquery⟩ := marked_of_optional hq
    obtain ⟨f, rfl, hfragment⟩ := marked_of_optional hf
    refine ⟨⟨none, a, path, q, f⟩, ?_, lines_of_body (by simp) hbody (fun _ => hcolon) hquery hfragment⟩
    simp [Parts.join_eq, schemeText]

end Grammar

/-- **A text splits into its components and is made up of them again, and components are read back.** The first match of
    the reference pattern is the split of the text, whatever it is. What components make up that are lines of their
    classes and whose path is not read otherwise is read as a reference with these components; so is every text of the
    grammar of RFC 3986. -/
theorem reference_splits_and_joins :
    (∀ s : String, Pattern.reference.match? s.toList = some (split s.toList).captures ∧
      (split s.toList).join = s.toList ∧ (split s.toList).Separate ∧
      ∀ u, parse s = .ok u → u.text = s ∧ u.parts = split s.toList) ∧
    (∀ p : Parts, p.Lines → p.Unambiguous → ∃ u, parse (String.ofList p.join) = .ok u ∧ u.parts = p) ∧
    ∀ cs ∈ Grammar.uriReference, ∃ u, parse (String.ofList cs) = .ok u := by
  refine ⟨fun s => ⟨Pattern.match?_reference _, join_split _, separate_split _, fun u hu => ?_⟩,
    fun p => parse_join, fun cs hcs => ?_⟩
  · have htext := parse_eq_ok.1 hu
    exact ⟨htext, by rw [parts, htext]⟩
  · obtain ⟨p, rfl, hlines, hu⟩ := Grammar.exists_parts_of_uriReference hcs
    obtain ⟨u, hparse, -⟩ := parse_join hlines hu
    exact ⟨u, hparse⟩

/-- An address of zeros is an authority of the grammar. -/
theorem Grammar.zeros_mem_uriReference : "//[::]".toList ∈ uriReference := by
  have hzeros : [':', ':'] ∈ ipv6Address := .inr ⟨[], .inl rfl, [':', ':'], rfl, rfl⟩
  have hhost : ['[', ':', ':', ']'] ∈ host := .inl (.inl ⟨['['], rfl, _, ⟨_, .inl hzeros, [']'], rfl, rfl⟩, rfl⟩)
  have hauthority : ['[', ':', ':', ']'] ∈ authority := ⟨[], .inl rfl, _, ⟨_, hhost, [], .inl rfl, rfl⟩, rfl⟩
  have hrelative : "//[::]".toList ∈ relativePart :=
    .inl (.inl (.inl ⟨['/', '/'], rfl, _, ⟨_, hauthority, [], Language.nil_mem_kstar _, rfl⟩, by decide⟩))
  exact .inr ⟨_, hrelative, [], ⟨[], .inl rfl, [], .inl rfl, rfl⟩, List.append_nil _⟩

/-- An empty authority before a path with two slashes and a colon, a query that is a question mark and an empty fragment
    are told apart; and an address of zeros is read. -/
theorem empty_authority_and_zeros_read :
    (∃ u, parse (String.ofList "x:////a:b??#".toList) = .ok u ∧
      u.parts = ⟨some ['x'], some [], ['/', '/', 'a', ':', 'b'], some ['?'], some []⟩) ∧
    ∃ u, parse (String.ofList "//[::]".toList) = .ok u := by
  obtain ⟨-, hjoined, hgrammar⟩ := reference_splits_and_joins
  have hlines : Parts.Lines ⟨some ['x'], some [], ['/', '/', 'a', ':', 'b'], some ['?'], some []⟩ :=
    problem?_eq_none_iff.1 (by decide +kernel)
  have hjoin : Parts.join ⟨some ['x'], some [], ['/', '/', 'a', ':', 'b'], some ['?'], some []⟩ =
      "x:////a:b??#".toList := by decide +kernel
  rw [← hjoin]
  exact ⟨hjoined _ hlines ⟨by simp, by simp, by simp⟩, hgrammar _ Grammar.zeros_mem_uriReference⟩

end LspWire.Uri
