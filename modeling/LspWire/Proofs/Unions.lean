import LspWire.Proofs.Lossless

/-!
# Values of an arm in a union

What an arm of an untagged union reads is written alike by the arm and by the union, and the union reads it back as
that value (`decodeData_union_of_arm`). This needs more of a union than that it can be read back: the value need not
have been refused by the earlier arms, so every arm has to agree with the later ones (`Ty.strict`).
-/

namespace LspWire

open Schema

/-! ## Strict unions -/

namespace Ty

/-- The arms of a union, and those of the unions among them. -/
inductive Arm : Ty → Ty → Prop
  | oneOf {arms : List Ty} {t : Ty} : t ∈ arms → Arm (.oneOf arms) t
  | tagged {key tag : String} {arms : List (String × Ty)} {t : Ty} : (tag, t) ∈ arms → Arm (.tagged key arms) t
  | nested {t u w : Ty} : Arm t u → Arm u w → Arm t w

/-- Whether one level of a type tells its arms: those of an untagged union agree with the later ones, and those of a
    tagged one write their tags. -/
def strictLevel : Ty → Bool
  | .oneOf arms => decide (arms.Pairwise fun a b => a.agrees b = true)
  | .tagged key arms => arms.all fun a => a.2.writesTag key a.1
  | _ => true

/-- Whether a type tells its arms, and so on with the unions among them. -/
def strict (t : Ty) : Bool := (t.partsThrough passesOn).all strictLevel

theorem strict_inner {t u : Ty} (h : t.strict = true) (ht : t.passesOn = true) (hu : u ∈ t.inner) : u.strict = true :=
  (all_partsThrough.1 h).2 ht u hu

theorem agrees_of_strict {arms : List Ty} (h : (oneOf arms).strict = true) :
    arms.Pairwise fun a b => a.agrees b = true :=
  decide_eq_true_iff.1 (all_partsThrough.1 h).1

theorem writesTag_of_strict {key : String} {arms : List (String × Ty)} (h : (tagged key arms).strict = true)
    {a : String × Ty} (ha : a ∈ arms) : a.2.writesTag key a.1 = true :=
  List.all_eq_true.1 (all_partsThrough.1 h).1 a ha

/-- Whether a type is regular, invertible, strict and tame. -/
def upright (t : Ty) : Bool := t.regular && t.invertible && t.strict && t.tame

theorem upright_iff {t : Ty} : t.upright = true ↔
    t.regular = true ∧ t.invertible = true ∧ t.strict = true ∧ t.tame = true := by
  simp only [upright, Bool.and_eq_true, and_assoc]

/-- What an upright type passes a value on to is upright. -/
theorem upright_inner {t u : Ty} (h : t.upright = true) (ht : t.passesOn = true) (hu : u ∈ t.inner) :
    u.upright = true := by
  obtain ⟨hregular, hinvertible, hstrict, htame⟩ := upright_iff.1 h
  exact upright_iff.2 ⟨regular_inner hregular hu, invertible_inner hinvertible hu, strict_inner hstrict ht hu,
    everyClass_inner htame hu⟩

/-- The arms of an upright type are upright. -/
theorem Arm.upright {t u : Ty} (h : Arm t u) : t.upright = true → u.upright = true := by
  induction h with
  | oneOf hm => exact fun ht => upright_inner ht rfl hm
  | tagged hm => exact fun ht => upright_inner ht rfl (List.mem_map_of_mem hm)
  | nested _ _ ih ih' => exact fun ht => ih' (ih ht)

/-- **A value that an arm reads back is read back by the union.** -/
theorem Arm.read_back {t u : Ty} {v : Value} {s : Source} (h : Arm t u) : t.upright = true →
    decode s u v.encode = .ok v → decode s t v.encode = .ok v := by
  induction h with
  | oneOf hm =>
    intro ht hread
    obtain ⟨pre, post, rfl⟩ := List.append_of_mem hm
    have hstrict := agrees_of_strict (upright_iff.1 ht).2.2.1
    refine decode_oneOf_of_agrees hread fun a ha => .inl ?_
    exact (List.pairwise_append.1 hstrict).2.2 a ha _ List.mem_cons_self
  | tagged hm =>
    intro ht hread
    obtain ⟨hr, -, hs, -⟩ := upright_iff.1 ht
    obtain ⟨out, he, htag⟩ := (reads_of_decode _ _ hread).writes_tag (writesTag_of_strict hs hm)
    rw [he] at hread ⊢
    exact decode_tagged_eq_ok.2 ⟨out, _, _, rfl, htag, lookup_of_mem (regular_tagged hr).1 hm, hread⟩
  | nested htu _ ih ih' => exact fun ht hread => ih ht (ih' (htu.upright ht) hread)

/-! ## The unions of the library -/

/-- Whether a type is the union that a progress notification carries. -/
def isProgressValue : Ty → Bool
  | .oneOf [.tagged "kind" [("begin", .record a), ("report", .record b), ("end", .record c)], .any] =>
    a == .workDoneProgressBegin && b == .workDoneProgressReport && c == .workDoneProgressEnd
  | _ => false

theorem isProgressValue_iff {t : Ty} : t.isProgressValue = true ↔ t = progressParamsValue := by
  constructor
  · intro h
    unfold isProgressValue at h
    split at h
    · simp only [Bool.and_eq_true, beq_iff_eq] at h
      obtain ⟨⟨rfl, rfl⟩, rfl⟩ := h
      rfl
    · cases h
  · rintro rfl; rfl

/-- Whether an untagged union is one of two exceptions or upright. -/
def soundUnion : Ty → Bool
  | .oneOf arms => (oneOf arms).isProgressValue || (oneOf arms).isSymbolResponse || (oneOf arms).upright
  | _ => true

end Ty

namespace Schema

theorem fields_soundUnion (c : Class) : (recordOf c).fields.all (fun f => f.ty.everywhere Ty.soundUnion) = true := by
  revert c
  decide +kernel

theorem soundUnion_checked : Checked Ty.soundUnion where
  other := fun t ht => by
    cases t with
    | oneOf => cases ht
    | _ => rfl
  field := fun c => List.all_eq_true.1 (fields_soundUnion c)
  named := by decide +kernel
  payload := by decide +kernel

/-- A declared union is upright unless it is one of the two exceptions. -/
theorem Declared.upright {arms : List Ty} (h : Declared (.oneOf arms)) (hp : .oneOf arms ≠ progressParamsValue)
    (hs : .oneOf arms ≠ workspaceSymbolResponse) : (Ty.oneOf arms).upright = true := by
  have hu : (Ty.oneOf arms).soundUnion = true := Ty.everywhere_self (soundUnion_checked.declared h)
  rw [Ty.soundUnion, Bool.or_eq_true, Bool.or_eq_true] at hu
  rcases hu with (hu | hu) | hu
  · exact absurd (Ty.isProgressValue_iff.1 hu) hp
  · exact absurd (Ty.isSymbolResponse_iff.1 hu) hs
  · exact hu

end Schema

/-! ## Arms in unions -/

/-- **What an arm reads is written alike by the union, which reads it back as that value.** -/
theorem decodeData_union_of_arm {arms : List Ty} (hu : Declared (.oneOf arms))
    (hp : .oneOf arms ≠ progressParamsValue) (hs : .oneOf arms ≠ workspaceSymbolResponse) {a : Ty}
    (ha : Ty.Arm (.oneOf arms) a) {d : Json} (hd : d.Finite) {v : Value} (h : decodeData a d = .ok v) :
    v.encodeAs (.oneOf arms) = v.encodeAs a ∧ decodeData (.oneOf arms) (v.encodeAs a) = .ok v := by
  have hup := hu.upright hp hs
  obtain ⟨hr, hi, -, ht⟩ := Ty.upright_iff.1 (ha.upright hup)
  rw [Outcome.decodeData_eq_ok] at h
  have hread := reads_of_decode a d h
  have hback := ha.read_back hup (hread.read_back hr hi hd (hread.recoverable hr ht) .data)
  rw [encodeAs_eq_encode hr h, encodeAs_eq_encode (Ty.upright_iff.1 hup).1 hback, Outcome.decodeData_eq_ok]
  exact ⟨rfl, hback⟩

/-- A command stays a command where a code action may stand. -/
theorem command_survives : ∃ v,
    decodeData (.record .command) (.obj [("title", .str "t"), ("command", .str "c")]) = .ok v ∧
    v.encodeAs codeActionOrCommand = v.encodeAs (.record .command) ∧
    decodeData codeActionOrCommand (v.encodeAs (.record .command)) = .ok v := by
  have hf : recordOf .command = command := rfl
  have hread : decodeData (.record .command) (.obj [("title", .str "t"), ("command", .str "c")]) =
      .ok (.record .command [("title", .str "t"), ("command", .str "c"), ("arguments", .null)] []) := by
    rw [Outcome.decodeData_eq_ok]
    simp [decode, decodeRecord, decodeFields, hf, command, record, required, Schema.optional, findField?,
      Members.find?, decodeStr, decodeAbsent, Outcome.both, Outcome.map, Outcome.within]
  have hnamed : ("CodeActionOrCommand", codeActionOrCommand) ∈ namedTypes := by simp [namedTypes]
  exact ⟨_, hread, decodeData_union_of_arm (.named (.named hnamed) (.self _)) (fun h => by cases h)
    (fun h => by cases h) (.oneOf List.mem_cons_self) (.obj (by simp [Json.Finite.str])) hread⟩

end LspWire
