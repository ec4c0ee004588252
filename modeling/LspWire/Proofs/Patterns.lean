import LspWire.Uri.Pattern

/-!
# Backtracking

A pattern can read the start of a text in many ways (`Pattern.Leaves`). Matching tries them in order and takes the first
one that lets the rest match: it fails only if no way does (`run_isSome_iff`, `accepts_iff`). A repetition of a class
takes all that it can if the rest matches then (`run_star_of_next`).
-/

namespace LspWire.Uri.Pattern

/-! ## Ways to match -/

/-- Whether a pattern can match the start of a text so that a rest is left. A repetition goes on only after something
    was read. -/
inductive Leaves : Pattern → List Char → List Char → Prop
  | char {allowed : Char → Bool} {c : Char} {cs : List Char} : allowed c = true → Leaves (.char allowed) (c :: cs) cs
  | seq {p q : Pattern} {cs ds rest : List Char} : Leaves p cs ds → Leaves q ds rest → Leaves (.seq p q) cs rest
  | left {p q : Pattern} {cs rest : List Char} : Leaves p cs rest → Leaves (.alt p q) cs rest
  | right {p q : Pattern} {cs rest : List Char} : Leaves q cs rest → Leaves (.alt p q) cs rest
  | once {p : Pattern} {cs rest : List Char} : Leaves p cs rest → Leaves (.opt p) cs rest
  | skip {p : Pattern} {cs : List Char} : Leaves (.opt p) cs cs
  | more {p : Pattern} {cs ds rest : List Char} : Leaves p cs ds → ds.length < cs.length → Leaves (.star p) ds rest →
      Leaves (.star p) cs rest
  | done {p : Pattern} {cs : List Char} : Leaves (.star p) cs cs
  | group {part : Part} {p : Pattern} {cs rest : List Char} : Leaves p cs rest → Leaves (.group part p) cs rest
  | atEnd {cs : List Char} : cs = [] ∨ cs = ['\n'] → Leaves .atEnd cs cs

section Leaves

variable {p q : Pattern} {allowed : Char → Bool} {part : Part} {cs rest : List Char}

theorem leaves_char_iff : (char allowed).Leaves cs rest ↔ ∃ c, allowed c = true ∧ cs = c :: rest := by
  constructor
  · rintro ⟨hc⟩
    exact ⟨_, hc, rfl⟩
  · rintro ⟨c, hc, rfl⟩
    exact .char hc

theorem leaves_one_iff {c : Char} : (one c).Leaves cs rest ↔ cs = c :: rest := by simp [one, leaves_char_iff]

theorem leaves_seq_iff : (seq p q).Leaves cs rest ↔ ∃ ds, p.Leaves cs ds ∧ q.Leaves ds rest := by
  constructor
  · intro h
    cases h with
    | seq hp hq => exact ⟨_, hp, hq⟩
  · rintro ⟨ds, hp, hq⟩
    exact .seq hp hq

theorem leaves_alt_iff : (alt p q).Leaves cs rest ↔ p.Leaves cs rest ∨ q.Leaves cs rest := by
  constructor
  · intro h
    cases h with
    | left h => exact .inl h
    | right h => exact .inr h
  · rintro (h | h)
    · exact .left h
    · exact .right h

theorem leaves_opt_iff : (opt p).Leaves cs rest ↔ p.Leaves cs rest ∨ cs = rest := by
  constructor
  · intro h
    cases h with
    | once h => exact .inl h
    | skip => exact .inr rfl
  · rintro (h | rfl)
    · exact .once h
    · exact .skip

/-- A repetition goes on only if its body has read something, so an empty turn ends it. -/
theorem leaves_star_iff : (star p).Leaves cs rest ↔
    (∃ ds, p.Leaves cs ds ∧ ds.length < cs.length ∧ (star p).Leaves ds rest) ∨ cs = rest := by
  constructor
  · intro h
    cases h with
    | more hp hlt hstar => exact .inl ⟨_, hp, hlt, hstar⟩
    | done => exact .inr rfl
  · rintro (⟨ds, hp, hlt, hstar⟩ | rfl)
    · exact .more hp hlt hstar
    · exact .done

theorem leaves_group_iff : (group part p).Leaves cs rest ↔ p.Leaves cs rest := by
  constructor
  · intro h
    cases h with
    | group h => exact h
  · exact .group

/-- The end is reached before a final line feed, too, and nothing is read there. -/
theorem leaves_atEnd_iff : atEnd.Leaves cs rest ↔ (cs = [] ∨ cs = ['\n']) ∧ rest = cs := by
  constructor
  · intro h
    cases h with
    | atEnd h => exact ⟨h, rfl⟩
  · rintro ⟨h, rfl⟩
    exact .atEnd h

/-- What holds of what a repetition leaves, and of any text if of what its body leaves, holds of the whole text. -/
@[elab_as_elim] theorem leaves_star_induction {motive : List Char → Prop} (h : (star p).Leaves cs rest)
    (hrest : motive rest) (hbody : ∀ cs ds, p.Leaves cs ds → motive ds → motive cs) : motive cs := by
  generalize hq : star p = q at h
  induction h with
  | more hp _ _ _ ih =>
    cases hq
    exact hbody _ _ hp (ih hrest rfl)
  | done => exact hrest
  | _ => cases hq

end Leaves

section Run

variable {g : Captures} {cs : List Char} {next : Captures → List Char → Option Captures} {allowed : Char → Bool}

theorem run_char_cons (c : Char) :
    (char allowed).run g (c :: cs) next = if allowed c then next g cs else none := by rw [run]

theorem run_char_nil : (char allowed).run g [] next = none := by rw [run]

theorem run_seq (p q : Pattern) : (seq p q).run g cs next = p.run g cs fun g cs => q.run g cs next := by rw [run]

theorem run_alt (p q : Pattern) : (alt p q).run g cs next = (p.run g cs next).or (q.run g cs next) := by rw [run]

theorem run_opt (p : Pattern) : (opt p).run g cs next = (p.run g cs next).or (next g cs) := by rw [run]

theorem run_star (p : Pattern) : (star p).run g cs next =
    (p.run g cs fun g rest => if rest.length < cs.length then (star p).run g rest next else none).or (next g cs) := by
  rw [run]

theorem run_group (part : Part) (p : Pattern) : (group part p).run g cs next =
    p.run g cs fun g rest => next (g.set part (cs.take (cs.length - rest.length))) rest := by rw [run]

theorem run_atEnd : atEnd.run g cs next = if cs = [] ∨ cs = ['\n'] then next g cs else none := by rw [run]

end Run

/-- Whether a continuation succeeds on a text, whatever was captured before. -/
def Decides (next : Captures → List Char → Option Captures) (ok : List Char → Prop) : Prop :=
  ∀ g cs, (next g cs).isSome = true ↔ ok cs

/-- **Matching fails only if no way to match lets the rest match.** -/
theorem run_isSome_iff (p : Pattern) {g : Captures} {cs : List Char} {next : Captures → List Char → Option Captures}
    {ok : List Char → Prop} (hnext : Decides next ok) :
    (p.run g cs next).isSome = true ↔ ∃ rest, p.Leaves cs rest ∧ ok rest := by
  induction p generalizing g cs next ok with
  | char allowed =>
    cases cs with
    | nil => simp [run_char_nil, leaves_char_iff]
    | cons c cs =>
      rw [run_char_cons]
      constructor
      · intro h
        split at h
        · next hc => exact ⟨cs, .char hc, (hnext g cs).1 h⟩
        · cases h
      · rintro ⟨rest, h, hok⟩
        obtain ⟨d, hd, hcs⟩ := leaves_char_iff.1 h
        cases hcs
        rwa [if_pos hd, hnext]
  | seq p q ihp ihq =>
    have hseq : Decides (fun g ds => q.run g ds next) fun ds => ∃ rest, q.Leaves ds rest ∧ ok rest :=
      fun g ds => ihq hnext
    rw [run_seq, ihp hseq]
    simp only [leaves_seq_iff]
    constructor
    · rintro ⟨ds, hp, rest, hq, hok⟩
      exact ⟨rest, ⟨ds, hp, hq⟩, hok⟩
    · rintro ⟨rest, ⟨ds, hp, hq⟩, hok⟩
      exact ⟨ds, hp, rest, hq, hok⟩
  | alt p q ihp ihq =>
    rw [run_alt, Option.isSome_or, Bool.or_eq_true, ihp hnext, ihq hnext]
    simp only [leaves_alt_iff, or_and_right, exists_or]
  | opt p ih =>
    rw [run_opt, Option.isSome_or, Bool.or_eq_true, ih hnext, hnext]
    simp only [leaves_opt_iff, or_and_right, exists_or, exists_eq_left']
  | star p ih =>
    -- a repetition goes on with what it leaves, which is shorter
    induction hn : cs.length using Nat.strongRecOn generalizing g cs with
    | ind n ihn =>
    subst hn
    have hmore : Decides (fun g ds => if ds.length < cs.length then (star p).run g ds next else none)
        fun ds => ds.length < cs.length ∧ ∃ rest, (star p).Leaves ds rest ∧ ok rest := by
      intro g ds
      by_cases hlt : ds.length < cs.length
      · simpa [hlt] using ihn ds.length hlt rfl
      · simp [hlt]
    rw [run_star, Option.isSome_or, Bool.or_eq_true, ih hmore, hnext]
    constructor
    · rintro (⟨ds, hp, hlt, rest, hstar, hok⟩ | hok)
      · exact ⟨rest, .more hp hlt hstar, hok⟩
      · exact ⟨cs, .done, hok⟩
    · rintro ⟨rest, h, hok⟩
      rcases leaves_star_iff.1 h with ⟨ds, hp, hlt, hstar⟩ | rfl
      · exact .inl ⟨ds, hp, hlt, rest, hstar, hok⟩
      · exact .inr hok
  | group part p ih =>
    have hset : Decides (fun g rest => next (g.set part (cs.take (cs.length - rest.length))) rest) ok :=
      fun g rest => hnext _ rest
    rw [run_group, ih hset]
    simp only [leaves_group_iff]
  | atEnd =>
    rw [run_atEnd]
    by_cases hend : cs = [] ∨ cs = ['\n']
    · simp [hend, hnext g cs, leaves_atEnd_iff]
    · simp [hend, leaves_atEnd_iff]

/-- A pattern accepts a text that it can match in some way. -/
theorem accepts_iff (p : Pattern) (cs : List Char) : p.accepts cs = true ↔ ∃ rest, p.Leaves cs rest := by
  have hall : Decides (fun g _ => some g) fun _ => True := fun g cs => by simp
  rw [accepts, match?, run_isSome_iff p hall]
  simp

/-! ## Repetitions of a class -/

section Star

variable {g : Captures} {cs : List Char} {next : Captures → List Char → Option Captures} {allowed : Char → Bool}

/-- A repetition of a class reads any characters of the class. -/
theorem leaves_star_char_iff {rest : List Char} :
    (star (char allowed)).Leaves cs rest ↔ ∃ ds, (∀ d ∈ ds, allowed d = true) ∧ cs = ds ++ rest := by
  constructor
  · intro h
    refine leaves_star_induction h ?_ ?_
    · exact ⟨[], by simp, rfl⟩
    rintro cs _ hbody ⟨ds, hds, rfl⟩
    obtain ⟨c, hc, rfl⟩ := leaves_char_iff.1 hbody
    exact ⟨c :: ds, List.forall_mem_cons.2 ⟨hc, hds⟩, rfl⟩
  · rintro ⟨ds, hds, rfl⟩
    induction ds with
    | nil => exact .done
    | cons d ds ih =>
      obtain ⟨hd, hds⟩ := List.forall_mem_cons.1 hds
      exact .more (.char hd) (by simp) (ih hds)

theorem run_star_nil : (star (char allowed)).run g [] next = next g [] := by
  rw [run_star, run_char_nil, Option.none_or]

/-- A repetition of a class takes a character of the class first, and stops before it only if that does not match. -/
theorem run_star_cons (c : Char) : (star (char allowed)).run g (c :: cs) next =
    if allowed c then ((star (char allowed)).run g cs next).or (next g (c :: cs)) else next g (c :: cs) := by
  rw [run_star, run_char_cons]
  split <;> simp

/-- A repetition takes all that it can if the rest matches then. -/
theorem run_star_of_next {r : Captures} (h : next g (cs.dropWhile allowed) = some r) :
    (star (char allowed)).run g cs next = some r := by
  induction cs with
  | nil => rw [run_star_nil]; exact h
  | cons c cs ih =>
    rw [run_star_cons]
    by_cases hc : allowed c = true
    · rw [List.dropWhile_cons_of_pos hc] at h
      rw [if_pos hc, ih h, Option.some_or]
    · rw [List.dropWhile_cons_of_neg hc] at h
      rw [if_neg hc, h]

/-- A repetition fails if the rest matches nowhere among the characters that it can take, nor after them. -/
theorem run_star_eq_none (hend : next g (cs.dropWhile allowed) = none)
    (hinside : ∀ c rest, allowed c = true → next g (c :: rest) = none) :
    (star (char allowed)).run g cs next = none := by
  induction cs with
  | nil => rw [run_star_nil]; exact hend
  | cons c cs ih =>
    rw [run_star_cons]
    by_cases hc : allowed c = true
    · rw [List.dropWhile_cons_of_pos hc] at hend
      rw [if_pos hc, ih hend, hinside c cs hc]
      rfl
    · rw [List.dropWhile_cons_of_neg hc] at hend
      rw [if_neg hc, hend]

end Star

end LspWire.Uri.Pattern
