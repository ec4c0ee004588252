import LspWire.Proofs.Patterns
import Mathlib.Data.List.TakeWhile

/-!
# Components of a text

Every text splits into components that make it up again (`join_split`), no component holds a character that ends it
(`separate_split`), and the first match of the reference pattern is this split (`match?_reference`): no text is without
a match. Components that could not be read otherwise are read back from the text that they make up (`split_join`).
-/

namespace LspWire.Uri

/-! ## Up to the first of some characters -/

section Stops

variable {stops : List Char}

/-- Whether a text is over or goes on with one of some characters. -/
def Stopped (stops cs : List Char) : Prop := ∀ c ∈ cs.head?, c ∈ stops

@[simp] theorem stopped_nil (stops : List Char) : Stopped stops [] := by simp [Stopped]

@[simp] theorem stopped_cons {c : Char} {cs : List Char} : Stopped stops (c :: cs) ↔ c ∈ stops := by simp [Stopped]

theorem Stopped.mono {more cs : List Char} (h : Stopped stops cs) (hsub : stops ⊆ more) : Stopped more cs :=
  fun c hc => hsub (h c hc)

theorem Stopped.append {a b : List Char} (ha : Stopped stops a) (hb : Stopped stops b) : Stopped stops (a ++ b) := by
  cases a with
  | nil => exact hb
  | cons c a => exact stopped_cons.2 (stopped_cons.1 ha)

theorem before_append_from? (stops cs : List Char) : before stops cs ++ from? stops cs = cs :=
  List.takeWhile_append_dropWhile

theorem not_mem_of_mem_before {cs : List Char} {c : Char} (h : c ∈ before stops cs) : c ∉ stops := by
  simpa using List.mem_takeWhile_imp h

/-- From the first mark on, a text starts with a mark or is over. -/
theorem stopped_from? (stops cs : List Char) : Stopped stops (from? stops cs) := by
  have hhead := List.head?_dropWhile_not (fun c => !stops.contains c) cs
  cases hcs : from? stops cs with
  | nil => simp
  | cons c rest =>
    rw [from?] at hcs
    rw [hcs] at hhead
    simpa using hhead

/-- What stands before a mark does not depend on what comes after it. -/
theorem before_append {a cs : List Char} (hcs : Stopped stops cs) : before stops (a ++ cs) = before stops a := by
  induction a with
  | nil =>
    cases cs with
    | nil => rfl
    | cons c cs => exact List.takeWhile_cons_of_neg (by simpa using hcs)
  | cons c a ih =>
    simp only [before, List.cons_append, List.takeWhile_cons] at ih ⊢
    rw [ih]

theorem from?_append {a cs : List Char} (hcs : Stopped stops cs) : from? stops (a ++ cs) = from? stops a ++ cs := by
  have htext := before_append_from? stops (a ++ cs)
  rw [before_append hcs] at htext
  apply (List.append_right_inj (before stops a)).1
  rw [htext, ← List.append_assoc, before_append_from?]

theorem before_of_stopped {a cs : List Char} (ha : ∀ c ∈ a, c ∉ stops) (hcs : Stopped stops cs) :
    before stops (a ++ cs) = a := by
  rw [before_append hcs, before, List.takeWhile_eq_self_iff]
  simpa using ha

theorem from?_of_stopped {a cs : List Char} (ha : ∀ c ∈ a, c ∉ stops) (hcs : Stopped stops cs) :
    from? stops (a ++ cs) = cs := by
  have h := before_append_from? stops (a ++ cs)
  rw [before_of_stopped ha hcs] at h
  exact List.append_cancel_left h

end Stops

/-! ## The split -/

/-- The text of a component with the mark in front of it. -/
def marked (mark : List Char) : Option (List Char) → List Char
  | none => []
  | some cs => mark ++ cs

/-- The text of a scheme with its colon. -/
def schemeText : Option (List Char) → List Char
  | none => []
  | some s => s ++ [':']

theorem Parts.join_eq (p : Parts) : p.join = schemeText p.scheme ++ (marked ['/', '/'] p.authority ++
    (p.path ++ (marked ['?'] p.query ++ marked ['#'] p.fragment))) := by
  obtain ⟨scheme, authority, path, query, fragment⟩ := p
  cases scheme <;> cases authority <;> cases query <;> cases fragment <;> simp [Parts.join, schemeText, marked]

/-- A scheme is what stands before the first colon, if it is not empty and no other mark comes first. -/
theorem splitScheme_cases (cs : List Char) :
    (∃ s rest, s ≠ [] ∧ (∀ c ∈ s, c ∉ [':', '/', '?', '#']) ∧ cs = s ++ ':' :: rest ∧ splitScheme cs = (some s, rest)) ∨
    splitScheme cs = (none, cs) ∧ (before [':', '/', '?', '#'] cs = [] ∨
      ∀ rest, from? [':', '/', '?', '#'] cs ≠ ':' :: rest) := by
  have hcs := before_append_from? [':', '/', '?', '#'] cs
  unfold splitScheme
  split
  · next c s rest hs hrest =>
    rw [hs, hrest] at hcs
    exact .inl ⟨c :: s, rest, List.cons_ne_nil _ _, fun x hx => not_mem_of_mem_before (hs ▸ hx), hcs.symm, rfl⟩
  · next hne =>
    refine .inr ⟨rfl, ?_⟩
    cases hs : before [':', '/', '?', '#'] cs with
    | nil => exact .inl rfl
    | cons c s => exact .inr fun rest hrest => hne c s rest hs hrest

theorem schemeText_splitScheme (cs : List Char) : schemeText (splitScheme cs).1 ++ (splitScheme cs).2 = cs := by
  rcases splitScheme_cases cs with ⟨s, rest, -, -, hcs, h⟩ | ⟨h, -⟩
  · rw [h, schemeText, hcs, List.append_assoc]
    rfl
  · rw [h]
    rfl

theorem marked_splitAuthority (cs : List Char) :
    marked ['/', '/'] (splitAuthority cs).1 ++ (splitAuthority cs).2 = cs := by
  unfold splitAuthority
  split
  · next cs => simp [marked, before_append_from?]
  · rfl

theorem marked_splitQuery (cs : List Char) : marked ['?'] (splitQuery cs).1 ++ (splitQuery cs).2 = cs := by
  unfold splitQuery
  split
  · next cs => simp [marked, before_append_from?]
  · rfl

/-- After a query the text is over or goes on with a fragment. -/
theorem stopped_splitQuery {cs : List Char} (h : Stopped ['?', '#'] cs) : Stopped ['#'] (splitQuery cs).2 := by
  unfold splitQuery
  split
  · exact stopped_from? _ _
  · next hne =>
    cases cs with
    | nil => simp
    | cons c cs =>
      rw [stopped_cons] at h ⊢
      rcases List.mem_cons.1 h with rfl | h
      · exact absurd rfl (hne cs)
      · exact h

theorem marked_splitFragment {cs : List Char} (h : Stopped ['#'] cs) : marked ['#'] (splitFragment cs) = cs := by
  cases cs with
  | nil => rfl
  | cons c cs =>
    rw [stopped_cons, List.mem_singleton] at h
    subst h
    rfl

/-- **The components of a text make it up again.** -/
theorem join_split (cs : List Char) : (split cs).join = cs := by
  have hstop : Stopped ['?', '#'] (from? ['?', '#'] (splitAuthority (splitScheme cs).2).2) := stopped_from? _ _
  rw [Parts.join_eq]
  simp only [split]
  rw [marked_splitFragment (stopped_splitQuery hstop), marked_splitQuery, before_append_from?, marked_splitAuthority,
    schemeText_splitScheme]

/-- No component holds a character that ends it. -/
structure Parts.Separate (p : Parts) : Prop where
  scheme : ∀ s ∈ p.scheme, s ≠ [] ∧ ∀ c ∈ s, c ∉ [':', '/', '?', '#']
  authority : ∀ a ∈ p.authority, ∀ c ∈ a, c ∉ ['/', '?', '#']
  path : ∀ c ∈ p.path, c ∉ ['?', '#']
  query : ∀ q ∈ p.query, ∀ c ∈ q, c ∉ ['#']

/-- The components of a text end before the characters that end them. -/
theorem separate_split (cs : List Char) : (split cs).Separate := by
  constructor
  · intro s hs
    rcases splitScheme_cases cs with ⟨s', rest, hne, hall, -, h⟩ | ⟨h, -⟩
    · simp only [split, h, Option.mem_some_iff] at hs
      exact hs ▸ ⟨hne, hall⟩
    · simp [split, h] at hs
  · intro a ha
    simp only [split, splitAuthority] at ha
    split at ha
    · cases ha
      exact fun c => not_mem_of_mem_before
    · cases ha
  · exact fun c => not_mem_of_mem_before
  · intro q hq
    simp only [split, splitQuery] at hq
    split at hq
    · cases hq
      exact fun c => not_mem_of_mem_before
    · cases hq

/-! ## The first match of the reference pattern -/

namespace Pattern

section Runs

variable {g : Captures} {cs : List Char} {next : Captures → List Char → Option Captures}

theorem run_one_self (c : Char) : (one c).run g (c :: cs) next = next g cs := by simp [one, run_char_cons]

theorem run_one_eq_none {c : Char} (h : ∀ rest, cs ≠ c :: rest) : (one c).run g cs next = none := by
  cases cs with
  | nil => exact run_char_nil
  | cons d cs =>
    have hd : d ≠ c := by
      rintro rfl
      exact h cs rfl
    simp [one, run_char_cons, hd]

theorem take_length_sub_dropWhile (allowed : Char → Bool) (cs : List Char) :
    cs.take (cs.length - (cs.dropWhile allowed).length) = cs.takeWhile allowed := by
  have hlength := congrArg List.length (List.takeWhile_append_dropWhile (p := allowed) (l := cs))
  rw [List.length_append] at hlength
  have htake : cs.length - (cs.dropWhile allowed).length = (cs.takeWhile allowed).length := by omega
  rw [htake]
  exact (List.prefix_iff_eq_take.1 (List.takeWhile_prefix allowed)).symm

/-- A component takes all characters up to a mark if the rest matches then. -/
theorem run_upTo {part : Part} {stops : List Char} {r : Captures}
    (h : next (g.set part (before stops cs)) (from? stops cs) = some r) : (upTo part stops).run g cs next = some r := by
  rw [upTo, run_group]
  apply run_star_of_next
  rw [take_length_sub_dropWhile]
  exact h

end Runs

/-! What a part of the reference pattern matches first is what the split takes, if the rest matches then. -/

section Reference

variable {g r : Captures} {cs : List Char} {next : Captures → List Char → Option Captures}

/-- The scheme is what stands before the first mark, if that is a colon. -/
theorem run_scheme (h : next (g.put .scheme (splitScheme cs).1) (splitScheme cs).2 = some r) :
    (opt (seq (group .scheme (plus (noneOf [':', '/', '?', '#']))) (one ':'))).run g cs next = some r := by
  rw [run_opt, run_seq, run_group, plus, run_seq]
  rcases splitScheme_cases cs with ⟨s, rest, hne, hall, rfl, hs⟩ | ⟨hs, hcolon⟩
  · obtain ⟨c, s, rfl⟩ := List.exists_cons_of_ne_nil hne
    obtain ⟨hc, hall⟩ := List.forall_mem_cons.1 hall
    have hdrop : (s ++ ':' :: rest).dropWhile (fun c => !List.contains [':', '/', '?', '#'] c) = ':' :: rest :=
      from?_of_stopped hall (by simp)
    have htake : (c :: (s ++ ':' :: rest)).take ((c :: (s ++ ':' :: rest)).length - (':' :: rest).length) = c :: s := by
      rw [← List.cons_append, List.length_append, Nat.add_sub_cancel, List.take_left]
    rw [hs] at h
    rw [noneOf, List.cons_append, run_char_cons, if_pos (by simpa using hc)]
    rw [run_star_of_next (r := r), Option.some_or]
    rw [hdrop, run_one_self, htake]
    exact h
  · rw [hs] at h
    suffices hnone : (noneOf [':', '/', '?', '#']).run g cs _ = none by
      rw [hnone, Option.none_or]
      exact h
    cases cs with
    | nil => exact run_char_nil
    | cons c cs =>
      rw [noneOf, run_char_cons]
      by_cases hc : (!List.contains [':', '/', '?', '#'] c) = true
      · -- what the repetition can take holds no colon, and none comes after it
        rw [if_pos hc]
        apply run_star_eq_none
        · apply run_one_eq_none
          intro rest hrest
          have hbefore : before [':', '/', '?', '#'] (c :: cs) = c :: before [':', '/', '?', '#'] cs :=
            List.takeWhile_cons_of_pos hc
          have hfrom : from? [':', '/', '?', '#'] (c :: cs) = ':' :: rest := by
            rw [from?, List.dropWhile_cons, if_pos hc, hrest]
          rcases hcolon with hempty | hcolon
          · rw [hbefore] at hempty
            cases hempty
          · exact hcolon rest hfrom
        · intro d rest hd
          apply run_one_eq_none
          intro rest' he
          cases he
          simp at hd
      · rw [if_neg hc]

/-- The authority is what follows two slashes. -/
theorem run_authority (h : next (g.put .authority (splitAuthority cs).1) (splitAuthority cs).2 = some r) :
    (opt (seq (one '/') (seq (one '/') (upTo .authority ['/', '?', '#'])))).run g cs next = some r := by
  rw [run_opt, run_seq]
  unfold splitAuthority at h
  split at h
  · rw [run_one_self, run_seq, run_one_self, run_upTo h, Option.some_or]
  · next hne =>
    suffices hnone : (one '/').run g cs (fun g cs => (seq (one '/') (upTo .authority ['/', '?', '#'])).run g cs next) =
        none by
      rw [hnone, Option.none_or]
      exact h
    by_cases hslash : ∃ rest, cs = '/' :: rest
    · obtain ⟨rest, rfl⟩ := hslash
      rw [run_one_self, run_seq, run_one_eq_none]
      rintro rest' rfl
      exact hne rest' rfl
    · exact run_one_eq_none fun rest he => hslash ⟨rest, he⟩

/-- The query is what follows a question mark. -/
theorem run_query (h : next (g.put .query (splitQuery cs).1) (splitQuery cs).2 = some r) :
    (opt (seq (one '?') (upTo .query ['#']))).run g cs next = some r := by
  rw [run_opt, run_seq]
  unfold splitQuery at h
  split at h
  · rw [run_one_self, run_upTo h, Option.some_or]
  · next hne =>
    rw [run_one_eq_none hne, Option.none_or]
    exact h

/-- Up to no mark there is all of the text. -/
theorem run_fragment (hcs : Stopped ['#'] cs) (h : next (g.put .fragment (splitFragment cs)) [] = some r) :
    (opt (seq (one '#') (upTo .fragment []))).run g cs next = some r := by
  rw [run_opt, run_seq]
  cases cs with
  | nil =>
    rw [run_one_eq_none (by simp), Option.none_or]
    exact h
  | cons c cs =>
    rw [stopped_cons, List.mem_singleton] at hcs
    subst hcs
    have hall : before [] cs = cs ∧ from? [] cs = [] := by simp [before, from?]
    rw [run_one_self, run_upTo (by rw [hall.1, hall.2]; exact h), Option.some_or]

theorem captures_eq (p : Parts) : (((((Captures.none.put .scheme p.scheme).put .authority p.authority).set .path
    p.path).put .query p.query).put .fragment p.fragment) = p.captures := by
  obtain ⟨scheme, authority, path, query, fragment⟩ := p
  funext part
  cases scheme <;> cases authority <;> cases query <;> cases fragment <;> cases part <;> rfl

/-- **The first match of the reference pattern is the split.** -/
theorem match?_reference (cs : List Char) : reference.match? cs = some (split cs).captures := by
  rw [match?, reference, run_seq]
  apply run_scheme
  rw [run_seq]
  apply run_authority
  rw [run_seq]
  apply run_upTo
  rw [run_seq]
  apply run_query
  rw [run_seq]
  apply run_fragment (stopped_splitQuery (stopped_from? _ _))
  rw [run_atEnd, if_pos (.inl rfl)]
  exact congrArg some (captures_eq (split cs))

end Reference

end Pattern

/-! ## Components that can be read back -/

/-- A path that is not read otherwise after what stands before it: with an authority it is empty or starts with a slash,
    without one it does not start with two, and without a scheme as well its first segment has no colon. -/
structure Parts.Unambiguous (p : Parts) : Prop where
  rooted : p.authority.isSome = true → Stopped ['/'] p.path
  slashes : p.authority = none → ¬ ['/', '/'] <+: p.path
  relative : p.scheme = none → p.authority = none → ':' ∉ before ['/'] p.path

theorem stopped_marked {mark : Char} (cs : Option (List Char)) : Stopped [mark] (marked [mark] cs) := by
  cases cs <;> simp [marked]

theorem splitFragment_marked (f : Option (List Char)) : splitFragment (marked ['#'] f) = f := by cases f <;> rfl

theorem splitQuery_marked {q : Option (List Char)} {cs : List Char} (hq : ∀ q' ∈ q, ∀ c ∈ q', c ∉ ['#'])
    (hcs : Stopped ['#'] cs) : splitQuery (marked ['?'] q ++ cs) = (q, cs) := by
  cases q with
  | none =>
    cases cs with
    | nil => rfl
    | cons c cs =>
      rw [stopped_cons, List.mem_singleton] at hcs
      subst hcs
      rfl
  | some q =>
    show (some (before ['#'] (q ++ cs)), from? ['#'] (q ++ cs)) = _
    rw [before_of_stopped (hq q rfl) hcs, from?_of_stopped (hq q rfl) hcs]

theorem splitAuthority_marked {a : Option (List Char)} {cs : List Char} (ha : ∀ a' ∈ a, ∀ c ∈ a', c ∉ ['/', '?', '#'])
    (hsome : a.isSome = true → Stopped ['/', '?', '#'] cs) (hnone : a = none → ¬ ['/', '/'] <+: cs) :
    splitAuthority (marked ['/', '/'] a ++ cs) = (a, cs) := by
  cases a with
  | none =>
    unfold splitAuthority
    split
    · next cs' hcs' => exact absurd ⟨cs', hcs'.symm⟩ (hnone rfl)
    · rfl
  | some a =>
    show (some (before ['/', '?', '#'] (a ++ cs)), from? ['/', '?', '#'] (a ++ cs)) = _
    rw [before_of_stopped (ha a rfl) (hsome rfl), from?_of_stopped (ha a rfl) (hsome rfl)]

/-- A scheme is read up to its colon. -/
theorem splitScheme_text {s rest : List Char} (hne : s ≠ []) (hs : ∀ c ∈ s, c ∉ [':', '/', '?', '#']) :
    splitScheme (s ++ ':' :: rest) = (some s, rest) := by
  have hrest : Stopped [':', '/', '?', '#'] (':' :: rest) := by simp
  unfold splitScheme
  rw [before_of_stopped hs hrest, from?_of_stopped hs hrest]
  cases s with
  | nil => exact absurd rfl hne
  | cons c s => rfl

/-- Without a colon among its characters up to the first mark, a text has no scheme. -/
theorem splitScheme_none {a cs : List Char} (ha : ∀ c ∈ a, c ∉ [':', '/', '?', '#'])
    (hcs : Stopped ['/', '?', '#'] cs) : splitScheme (a ++ cs) = (none, a ++ cs) := by
  have hstop : Stopped [':', '/', '?', '#'] cs := fun c hc => List.mem_cons_of_mem _ (hcs c hc)
  unfold splitScheme
  rw [from?_of_stopped ha hstop]
  split
  · simp at hcs
  · rfl

/-- Two slashes at the start of a path that another mark follows are slashes of the path. -/
theorem slashes_of_append {path cs : List Char} (hcs : Stopped ['?', '#'] cs) (h : ['/', '/'] <+: path ++ cs) :
    ['/', '/'] <+: path := by
  have hslash : ∀ rest, cs ≠ '/' :: rest := by
    rintro rest rfl
    simp at hcs
  obtain ⟨rest, hrest⟩ := h
  match path with
  | [] => exact absurd hrest.symm (hslash _)
  | [c] => exact absurd (List.cons.inj hrest).2.symm (hslash _)
  | c :: d :: path =>
    simp only [List.cons_append, List.cons.injEq] at hrest
    obtain ⟨rfl, rfl, -⟩ := hrest
    exact ⟨path, rfl⟩

theorem splitScheme_join {p : Parts} (h : p.Separate) (hu : p.Unambiguous) {cs : List Char}
    (hcs : Stopped ['?', '#'] cs) :
    splitScheme (schemeText p.scheme ++ (marked ['/', '/'] p.authority ++ (p.path ++ cs))) =
      (p.scheme, marked ['/', '/'] p.authority ++ (p.path ++ cs)) := by
  cases hs : p.scheme with
  | some s =>
    obtain ⟨hne, hall⟩ := h.scheme s hs
    rw [schemeText, List.append_assoc]
    exact splitScheme_text hne hall
  | none =>
    cases ha : p.authority with
    | some a => exact splitScheme_none (a := []) (by simp) (by simp [marked])
    | none =>
      -- the first segment of the path is all that stands before the first mark
      have hmarks : ∀ c ∈ before ['/'] p.path, c ∉ [':', '/', '?', '#'] := by
        intro c hc hmem
        rcases List.mem_cons.1 hmem with rfl | hmem
        · exact hu.relative hs ha hc
        rcases List.mem_cons.1 hmem with rfl | hmem
        · exact not_mem_of_mem_before hc (by simp)
        · exact h.path c (List.takeWhile_subset _ hc) hmem
      have hrest : Stopped ['/', '?', '#'] (from? ['/'] p.path ++ cs) :=
        ((stopped_from? ['/'] p.path).mono (by simp)).append (hcs.mono (by simp))
      have hnone := splitScheme_none hmarks hrest
      rwa [← List.append_assoc, before_append_from?] at hnone

/-- **Components are read back from the text that they make up**, if none holds a character that ends it and the path is
    not read otherwise. -/
theorem split_join {p : Parts} (h : p.Separate) (hu : p.Unambiguous) : split p.join = p := by
  have hquery : Stopped ['?', '#'] (marked ['?'] p.query ++ marked ['#'] p.fragment) :=
    ((stopped_marked p.query).mono (by simp)).append ((stopped_marked p.fragment).mono (by simp))
  have hauthority : splitAuthority (marked ['/', '/'] p.authority ++ (p.path ++
      (marked ['?'] p.query ++ marked ['#'] p.fragment))) = (p.authority, _) :=
    splitAuthority_marked h.authority (fun ha => ((hu.rooted ha).mono (by simp)).append (hquery.mono (by simp)))
      fun ha hslashes => hu.slashes ha (slashes_of_append hquery hslashes)
  rw [Parts.join_eq]
  simp only [split, splitScheme_join h hu hquery, hauthority, before_of_stopped h.path hquery,
    from?_of_stopped h.path hquery, splitQuery_marked h.query (stopped_marked p.fragment), splitFragment_marked]

end LspWire.Uri
