import LspWire.Proofs.Lossless
import LspWire.Proofs.Rewriting

/-!
# Members that are no fields

A record of an open class keeps the members of an object that are no fields (`besides`). It writes them behind its
fields, in their order and as they are, but for those that are `null` (`besides_encode`). So it sends all of them back,
and is itself read back, exactly if none of them is `null` (`besides_kept_iff`).
-/

namespace LspWire

open Schema

theorem Json.kind_eq_null {j : Json} : j.kind = .null ↔ j = .null := by cases j <;> simp [kind]

section Open

variable {c : Class} {ms : List (String × Json)} {v : Value}

theorem mem_of_mem_besides {m : String × Json} (h : m ∈ besides c ms) : m ∈ ms := by
  unfold besides at h
  split at h
  · exact (List.mem_filter.1 h).1
  · cases h

/-- What a record keeps are the members besides its fields. -/
theorem decode_besides (hd : (Json.obj ms).Distinct) (h : decode .data (.record c) (.obj ms) = .ok v) :
    ∃ g : Field → Value, v = .record c ((recordOf c).fields.map fun f => (f.name, g f)) (besides c ms) := by
  obtain ⟨ms', ⟨⟩, -, hv⟩ := decodeRecord_eq_ok ((decode_record c _).symm.trans h)
  rw [keptMembers_eq_besides hd] at hv
  exact ⟨_, hv⟩

/-- **An open record writes the members besides its fields as they are and in their order, but for `null`.** -/
theorem besides_encode (hk : (recordOf c).keepsExtra = true) (hd : (Json.obj ms).Distinct)
    (hf : (Json.obj ms).Finite) (h : decode .data (.record c) (.obj ms) = .ok v) :
    ∃ out, v.encode = .obj out ∧ besides c out = (besides c ms).filter fun m => m.2.kind != .null := by
  obtain ⟨g, rfl⟩ := decode_besides hd h
  refine ⟨_, encode_record _, ?_⟩
  have hextra : writtenExtra (besides c ms) = (besides c ms).filter fun m => m.2.kind != .null :=
    List.filter_congr fun m hm => isVoid_eq_null (hf.member (mem_of_mem_besides hm))
  rw [besides_of_keepsExtra hk, List.filter_append, filter_writtenFields, List.nil_append, hextra]
  refine List.filter_eq_self.2 fun m hm => ?_
  have hm' := (List.mem_filter.1 hm).1
  rw [besides_of_keepsExtra hk] at hm'
  exact (List.mem_filter.1 hm').2

/-- An open record whose fields are tame can be read back if what it keeps besides them is not `null`. -/
theorem Reads.recoverable_open {source : Source} {j : Json} {fs : List (String × Value)}
    {extra : List (String × Json)} (h : Reads source (.record c) j (.record c fs extra))
    (ht : ∀ f ∈ (recordOf c).fields, f.ty.tame = true) (hx : ∀ m ∈ extra, m.2 ≠ .null) :
    Recoverable (.record c) (.record c fs extra) where
  extra := fun hw m hm => by
    cases hw with
    | here => exact hx m hm
    | field hf hmem hw =>
      cases h.whole rfl with
      | leaf hv => cases hv
      | record _ hvals _ =>
        rw [hw.extra_eq_nil (ht _ hf) (hvals _ hmem)] at hm
        cases hm
  id := fun hw => by
    cases hw with
    | field hf _ hw => exact absurd (hw.tame (ht _ hf)) (by decide)

/-- What is read back from members that are not `null` keeps none. -/
theorem ne_null_of_decode (hk : (recordOf c).keepsExtra = true) {out : List (String × Json)}
    {fs : List (String × Value)} {extra : List (String × Json)} (hout : ∀ m ∈ besides c out, m.2 ≠ .null)
    (h : decode .data (.record c) (.obj out) = .ok (.record c fs extra)) : ∀ m ∈ extra, m.2 ≠ .null := by
  obtain ⟨out', ⟨⟩, -, hv⟩ := decodeRecord_eq_ok ((decode_record c _).symm.trans h)
  obtain ⟨-, -, rfl⟩ := Value.record.inj hv
  intro m hm hnull
  obtain ⟨n, hn, hkey, hmerged, hfields⟩ := mem_extraMembers (mem_keptMembers hm).2
  rw [besides_of_keepsExtra hk] at hout
  refine hout n (List.mem_filter.2 ⟨hn, ?_⟩) (Json.merged_eq_null.1 (hmerged.trans hnull))
  rw [Bool.not_eq_true', List.any_eq_false]
  exact fun f hf hkey' => (Field.hasKey_iff.1 hkey').elim (hkey ▸ (hfields f hf).1) (hkey ▸ (hfields f hf).2)

end Open

/-- **An open record sends all members that are no fields back, in their order and as they are, exactly if none of them
    is `null`**, and exactly then it is itself read back. -/
theorem besides_kept_iff {c : Class} (hc : c = .messageActionItem ∨ c = .formattingOptions)
    {ms : List (String × Json)} (hd : (Json.obj ms).Distinct) (hf : (Json.obj ms).Finite) {v : Value}
    (h : decodeData (.record c) (.obj ms) = .ok v) : ∃ out, v.encode = .obj out ∧
      besides c out = (besides c ms).filter (fun m => m.2.kind != .null) ∧
      (besides c out = besides c ms ↔ ∀ m ∈ besides c ms, m.2 ≠ .null) ∧
      (decodeData (.record c) v.encode = .ok v ↔ ∀ m ∈ besides c ms, m.2 ≠ .null) := by
  have hk : (recordOf c).keepsExtra = true := by rcases hc with rfl | rfl <;> rfl
  have ht : ∀ f ∈ (recordOf c).fields, f.ty.tame = true := by
    rcases hc with rfl | rfl <;> exact List.all_eq_true.1 (by decide)
  rw [Outcome.decodeData_eq_ok] at h ⊢
  obtain ⟨out, hout, hbesides⟩ := besides_encode hk hd hf h
  refine ⟨out, hout, hbesides, ?_, fun hback => ?_, fun hnull => ?_⟩
  · rw [hbesides, List.filter_eq_self]
    simp [Json.kind_eq_null]
  · obtain ⟨g, rfl⟩ := decode_besides hd h
    rw [hout] at hback
    refine ne_null_of_decode hk (fun m hm => ?_) hback
    rw [hbesides] at hm
    simpa [Json.kind_eq_null] using (List.mem_filter.1 hm).2
  · have hread := reads_of_decode _ _ h
    obtain ⟨g, rfl⟩ := decode_besides hd h
    exact hread.read_back rfl rfl hf (hread.recoverable_open ht hnull) .data

/-! ## Action items -/

/-- An action item with a title and the members that are kept besides it. -/
def actionItem (title : String) (extra : List (String × Json)) : Value :=
  .record .messageActionItem [("title", .str title)] extra

theorem encode_actionItem (title : String) (extra : List (String × Json)) :
    (actionItem title extra).encode = .obj (("title", .str title) :: writtenExtra extra) :=
  encode_record (c := .messageActionItem) (g := fun _ => .str title) extra

/-- An action item is read as its title and all other members. -/
theorem decode_actionItem {title : String} {ms : List (String × Json)}
    (hd : (Json.obj (("title", .str title) :: ms)).Distinct) :
    decode .data (.record .messageActionItem) (.obj (("title", .str title) :: ms)) = .ok (actionItem title ms) := by
  have hr : (recordOf .messageActionItem).fields = [required "title" .str] := rfl
  have hk : (recordOf .messageActionItem).keepsExtra = true := rfl
  have hrest : ∀ m ∈ ms, m.1 ≠ "title" := fun m hm he =>
    (List.nodup_cons.1 hd.nodup).1 (List.mem_map.2 ⟨m, hm, he⟩)
  have hbesides : besides .messageActionItem (("title", .str title) :: ms) = ms := by
    rw [besides_of_keepsExtra hk, hr, List.filter_cons_of_neg (by simp [required]), List.filter_eq_self]
    exact fun m hm => by simp [required, (hrest m hm).symm]
  have hextra := keptMembers_eq_besides (c := .messageActionItem) hd
  rw [keptMembers, if_pos hk, hbesides] at hextra
  have htitle : findField? (required "title" .str) (("title", .str title) :: ms) = some ("title", .str title) := by
    simp [findField?, required, Members.find?, Members.find?_eq_none.2 hrest]
  rw [decode_record, decodeRecord, if_pos hk, hextra, hr, decodeFields_eq_both, fieldOutcome, htitle]
  simp [decode, decodeStr, decodeFields, required, actionItem, Outcome.both, Outcome.map, Outcome.within]

/-- An action item is sent back with a number and an object, though that has a `null` in it. -/
theorem action_item_sent_back :
    let extra : List (String × Json) := [("after", .int 3), ("data", .obj [("key", .null)])]
    let d : List (String × Json) := ("title", .str "Retry") :: extra
    (Json.obj d).Distinct ∧ (Json.obj d).Finite ∧
      decodeData (.record .messageActionItem) (.obj d) = .ok (actionItem "Retry" extra) ∧
      (∃ out, (actionItem "Retry" extra).encode = .obj out ∧ besides .messageActionItem out = extra) ∧
      decodeData (.record .messageActionItem) (actionItem "Retry" extra).encode = .ok (actionItem "Retry" extra) := by
  intro extra d
  have hd : (Json.obj d).Distinct :=
    .obj (by decide) (by simp [d, extra, Json.Distinct.int, Json.Distinct.str, Json.Distinct.null, Json.Distinct.obj])
  have hf : (Json.obj d).Finite :=
    .obj (by simp [d, extra, Json.Finite.int, Json.Finite.str, Json.Finite.null, Json.Finite.obj])
  have hread : decodeData (.record .messageActionItem) (.obj d) = .ok (actionItem "Retry" extra) :=
    Outcome.decodeData_eq_ok.2 (decode_actionItem hd)
  have hbesides : besides .messageActionItem d = extra := by rfl
  obtain ⟨out, hout, -, hkept, hback⟩ := besides_kept_iff (.inl rfl) hd hf hread
  rw [hbesides] at hkept hback
  have hnull : ∀ m ∈ extra, m.2 ≠ .null := by simp [extra]
  exact ⟨hd, hf, hread, ⟨out, hout, hkept.2 hnull⟩, hback.2 hnull⟩

/-- An action item is sent back without a member that is `null`, and so it is not the item that was sent. -/
theorem null_member_not_sent_back :
    let d : Json := .obj [("title", .str "Retry"), ("data", .null)]
    let v : Value := actionItem "Retry" [("data", .null)]
    d.Distinct ∧ d.Finite ∧ decodeData (.record .messageActionItem) d = .ok v ∧
      v.encode = .obj [("title", .str "Retry")] ∧ decodeData (.record .messageActionItem) v.encode ≠ .ok v := by
  intro d v
  have hd : d.Distinct := .obj (by decide) (by simp [Json.Distinct.str, Json.Distinct.null])
  have hf : d.Finite := .obj (by simp [Json.Finite.str, Json.Finite.null])
  have hencode : v.encode = .obj [("title", .str "Retry")] := encode_actionItem _ _
  have hback : decode .data (.record .messageActionItem) v.encode = .ok (actionItem "Retry" []) := by
    rw [hencode]
    exact decode_actionItem (.obj (by decide) (by simp [Json.Distinct.str]))
  refine ⟨hd, hf, Outcome.decodeData_eq_ok.2 (decode_actionItem hd), hencode, ?_⟩
  rw [ne_eq, Outcome.decodeData_eq_ok, hback]
  simp [v, actionItem]

end LspWire
