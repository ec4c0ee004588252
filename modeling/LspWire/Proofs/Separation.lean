import LspWire.Proofs.Writing

/-!
# Types that agree on what is written

The first arm of an untagged union that reads a value need not be the arm that wrote it. It gives the same value when
the two types agree: no JSON value has a form of both (`Ty.differ`), or the first type misses something that every value
of the second lacks (`lacks`), or both are the same record. Agreement is checked on the types (`Ty.agrees`), and
`Reads.eq_of_agrees` says what the check means.
-/

namespace LspWire

open Schema

/-! ## Forms -/

namespace Ty

mutual

/-- The forms of the values that are read at a type. -/
def kinds : Ty → List Json.Kind
  | .any => Json.Kind.all
  | .null => [.null]
  | .bool => [.bool]
  | .integer | .bounded .. | .intEnum _ | .watchKind => [.int]
  | .float => [.int, .float]
  | .str | .uri | .openEnum _ | .closedEnum _ | .literal _ => [.str]
  | .list _ | .pair .. => [.arr]
  | .map .. | .record _ | .tagged .. => [.obj]
  | .optional t => .null :: kinds t
  | .oneOf arms => kindsOf arms
  | .provider .. => [.bool, .obj]
  | .switch _ t => .null :: .bool :: kinds t

/-- The forms of the values that are read at one of the types. -/
def kindsOf : List Ty → List Json.Kind
  | [] => []
  | t :: ts => kinds t ++ kindsOf ts

end

theorem mem_kindsOf {k : Json.Kind} {t : Ty} : ∀ {ts : List Ty}, t ∈ ts → k ∈ t.kinds → k ∈ kindsOf ts
  | a :: ts, ht, hk => by
    rw [kindsOf, List.mem_append]
    rcases List.mem_cons.1 ht with rfl | ht
    · exact .inl hk
    · exact .inr (mem_kindsOf ht hk)

/-- Whether no value has a form of both types. -/
def differ (a b : Ty) : Bool := a.kinds.all fun k => !b.kinds.contains k

theorem differ_spec {a b : Ty} {k : Json.Kind} (h : a.differ b = true) (ha : k ∈ a.kinds) : k ∉ b.kinds := by
  simpa using List.all_eq_true.1 h k ha

end Ty

theorem ReadsScalar.kind_mem {source : Source} {t : Ty} {j : Json} {v : Value} (h : ReadsScalar source t j v) :
    j.kind ∈ t.kinds := by
  cases h <;> simp [Json.kind, Ty.kinds]

/-- What is read at a type has one of its forms. -/
theorem Reads.kind_mem {source : Source} {t : Ty} {j : Json} {v : Value} (h : Reads source t j v) :
    j.kind ∈ t.kinds := by
  induction h with
  | any j => rw [Ty.kinds]; exact Json.Kind.mem_all _
  | scalar h => exact h.kind_mem
  | optional _ _ ih => rw [Ty.kinds]; exact List.mem_cons_of_mem _ ih
  | oneOf _ _ ih => rw [Ty.kinds]; exact Ty.mem_kindsOf (by simp) ih
  | switch _ _ _ ih => rw [Ty.kinds]; exact List.mem_cons_of_mem _ (List.mem_cons_of_mem _ ih)
  | _ => simp [Json.kind, Ty.kinds]

/-- A field that is required is read from a member, in a form of its type. -/
theorem kind_of_required {source : Source} {f : Field} {ms : List (String × Json)} {v : Value}
    (hreq : f.absent = none) (h : decodeField source f ms = .ok v) :
    ∃ k j, findField? f ms = some (k, j) ∧ j.kind ∈ f.ty.kinds := by
  rw [decodeField] at h
  split at h
  · next k j hfind => exact ⟨k, j, hfind, (reads_of_decode _ _ h).kind_mem⟩
  · rw [decodeAbsent_eq_ok, hreq] at h
    cases h

/-! ## Agreement -/

namespace Schema

/-- Whether no record of class `b` is read as one of class `a`: it never writes a field that `a` requires, or never in a
    form that `a` reads. -/
def lacks (a b : Class) : Bool :=
  !(recordOf b).keepsExtra &&
    (recordOf a).fields.any fun f => f.absent.isNone &&
      (recordOf b).fields.all fun g => (g.wire != f.wire && g.wire != f.name) || f.ty.differ g.ty

/-- Whether no record of a class writes a key. -/
def neverWrites (key : String) (c : Class) : Bool :=
  !(recordOf c).keepsExtra && (recordOf c).fields.all fun g => g.wire != key

end Schema

namespace Ty

/-- Whether a type reads what a record writes as that record, or not at all. -/
def agreesRecord (a : Ty) (b : Class) : Bool :=
  match a with
  | .record a => a == b || lacks a b
  | .tagged key _ => neverWrites key b
  | _ => false

mutual

/-- Whether a type reads what a value of another writes as that value, or not at all. -/
def agrees (a : Ty) : Ty → Bool
  | .oneOf arms => a.differ (.oneOf arms) || agreesAll a arms
  | .tagged key arms => a.differ (.tagged key arms) || agreesArms a arms
  | .list b => a.differ (.list b) ||
    match a with
    | .list a => agrees a b
    | _ => false
  | .record b => a.differ (.record b) || agreesRecord a b
  | b => a.differ b

/-- Whether a type agrees with all types. -/
def agreesAll (a : Ty) : List Ty → Bool
  | [] => true
  | t :: ts => agrees a t && agreesAll a ts

/-- Whether a type agrees with all types under tags. -/
def agreesArms (a : Ty) : List (String × Ty) → Bool
  | [] => true
  | (_, t) :: ts => agrees a t && agreesArms a ts

end

theorem agreesAll_spec {a t : Ty} : ∀ {ts : List Ty}, agreesAll a ts = true → t ∈ ts → a.agrees t = true
  | b :: ts, h, ht => by
    rw [agreesAll, Bool.and_eq_true] at h
    rcases List.mem_cons.1 ht with rfl | ht
    · exact h.1
    · exact agreesAll_spec h.2 ht

theorem agreesArms_spec {a t : Ty} {tag : String} : ∀ {ts : List (String × Ty)}, agreesArms a ts = true →
    (tag, t) ∈ ts → a.agrees t = true
  | (name, b) :: ts, h, ht => by
    rw [agreesArms, Bool.and_eq_true] at h
    rcases List.mem_cons.1 ht with ht | ht
    · cases ht; exact h.1
    · exact agreesArms_spec h.2 ht

end Ty

section Agreement

variable {source : Source}

/-- A record that lacks what a class requires is not read as one of it. -/
theorem not_reads_of_lacks {a b : Class} (hlacks : lacks a b = true) {g : Field → Value} {ms out : List (String × Json)}
    (hout : out = writtenFields b g ++ writtenExtra (keptMembers b ms)) {w : Value}
    (hg : ∀ f ∈ (recordOf b).fields, ∀ k j, findField? f out = some (k, j) → j.kind ∈ f.ty.kinds) :
    decode source (.record a) (.obj out) ≠ .ok w := by
  intro h
  simp only [lacks, Bool.and_eq_true, Bool.not_eq_true', List.any_eq_true, List.all_eq_true] at hlacks
  obtain ⟨hk, f, hf, hreq, hall⟩ := hlacks
  obtain ⟨out, ⟨⟩, hok, -⟩ := decodeRecord_eq_ok ((decode_record a _).symm.trans h)
  obtain ⟨k, j, hj, hread⟩ := kind_of_required (Option.isNone_iff_eq_none.1 hreq) (hok f hf)
  obtain ⟨hfind, hkey⟩ := find?_of_findField? hj
  obtain ⟨f', hf', he⟩ := mem_encode_record hk (hout ▸ Members.mem_of_find? hfind)
  obtain ⟨rfl, -⟩ := Prod.mk.inj he
  have hkind : j.kind ∈ f'.ty.kinds := hg f' hf' f'.wire j (by rw [findField?, hfind])
  rcases Bool.or_eq_true_iff.1 (hall f' hf') with hne | hdiff
  · simp only [Bool.and_eq_true, bne_iff_ne] at hne
    exact hkey.elim hne.1 hne.2
  · exact Ty.differ_spec hdiff hread hkind

/-- **What a value writes is read back as that value by every type that agrees.** -/
theorem Reads.eq_of_agrees {t : Ty} {j : Json} {v : Value} (h : Reads source t j v) : j = v.encode →
    ∀ (a : Ty) (w : Value), a.agrees t = true → decode source a j = .ok w → w = v := by
  have differs : ∀ {a t : Ty} {j : Json} {v w : Value}, Reads source t j v → decode source a j = .ok w →
      a.differ t = true → w = v := by
    intro a t j v w h hw hd
    exact absurd h.kind_mem (Ty.differ_spec hd (reads_of_decode _ _ hw).kind_mem)
  induction h with
  | oneOf hpre ht ih =>
    intro he a w ha hw
    rw [Ty.agrees, Bool.or_eq_true] at ha
    rcases ha with hd | ha
    · exact differs (.oneOf hpre ht) hw hd
    · exact ih he a w (Ty.agreesAll_spec ha (by simp)) hw
  | tagged htag hm ht ih =>
    intro he a w ha hw
    rw [Ty.agrees, Bool.or_eq_true] at ha
    rcases ha with hd | ha
    · exact differs (.tagged htag hm ht) hw hd
    · exact ih he a w (Ty.agreesArms_spec ha (mem_of_lookup hm)) hw
  | @list t items g hg ih =>
    intro he a w ha hw
    unfold Ty.agrees at ha
    rw [Bool.or_eq_true] at ha
    rcases ha with hd | ha
    · exact differs (.list g hg) hw hd
    split at ha
    · next a =>
      obtain ⟨_, ⟨⟩, hok, rfl⟩ := decode_list_eq_ok hw
      rw [Value.encode_list, List.map_map] at he
      have hitem : ∀ x ∈ items, x = (g x).encode :=
        List.map_inj_left.1 ((List.map_id' items).trans (Json.arr.inj he))
      rw [List.map_congr_left fun x hx => ih x hx (hitem x hx) a _ ha (hok x hx)]
    · cases ha
  | @record c ms g hread habsent ih =>
    intro he a w ha hw
    have hself : Reads source (.record c) (.obj ms) _ := .record g hread habsent
    rw [Ty.agrees, Bool.or_eq_true] at ha
    rcases ha with hd | ha
    · exact differs hself hw hd
    rw [encode_record] at he
    unfold Ty.agreesRecord at ha
    split at ha
    · next a =>
      rcases Bool.or_eq_true_iff.1 ha with hac | hlacks
      · rw [beq_iff_eq] at hac
        subst hac
        rw [hself.decode_eq] at hw
        exact (Except.ok.inj hw).symm
      · exact absurd hw (not_reads_of_lacks hlacks (Json.obj.inj he)
          fun f hf k j hj => (hread f hf k j hj).kind_mem)
    · next key arms =>
      simp only [neverWrites, Bool.and_eq_true, Bool.not_eq_true', List.all_eq_true, bne_iff_ne] at ha
      obtain ⟨ms', tag, t, hms, htag, -, -⟩ := decode_tagged_eq_ok.1 hw
      cases hms
      obtain ⟨f, hf, hkey⟩ := mem_encode_record ha.1 (Json.obj.inj he ▸ Members.mem_of_find? htag)
      exact absurd (Prod.mk.inj hkey).1 (ha.2 f hf)
    · cases ha
  | scalar h =>
    intro _ a w ha hw
    refine differs (.scalar h) hw ?_
    cases h <;> exact ha
  | any j => exact fun _ _ _ ha hw => differs (.any j) hw ha
  | pair hx hy => exact fun _ _ _ ha hw => differs (.pair hx hy) hw ha
  | map g hk hg => exact fun _ _ _ ha hw => differs (.map g hk hg) hw ha
  | optionalNull t => exact fun _ _ _ ha hw => differs (.optionalNull t) hw ha
  | optional hj ht => exact fun _ _ _ ha hw => differs (.optional hj ht) hw ha
  | registered hr ht => exact fun _ _ _ ha hw => differs (.registered hr ht) hw ha
  | plain hr ht => exact fun _ _ _ ha hw => differs (.plain hr ht) hw ha
  | allowed p r b => exact fun _ _ _ ha hw => differs (.allowed p r b) hw ha
  | switchNull on t => exact fun _ _ _ ha hw => differs (.switchNull on t) hw ha
  | switchOn on t => exact fun _ _ _ ha hw => differs (.switchOn on t) hw ha
  | switchOff on t => exact fun _ _ _ ha hw => differs (.switchOff on t) hw ha
  | switch hj hb ht => exact fun _ _ _ ha hw => differs (.switch hj hb ht) hw ha

end Agreement

end LspWire
