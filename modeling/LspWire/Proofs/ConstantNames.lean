import LspWire.Enum.Shown
import LspWire.Proofs.Tokens
import Mathlib.Data.List.Nodup

/-!
# What integer constants are shown as

A name in capitals is made of words of capital letters and digits, each with a letter first, between underscores. In its
Pascal form every capital letter begins a word, so the name is read back from it (`capitalName_pascalName`) and no two
names have one Pascal form. The form holds letters and digits only, and a value without a name is shown with its number
in parentheses, so the two kinds of values are not shown alike.

The constants of every enumeration are told apart by their names, which are in capitals, and by their values
(`IntEnum.wellNamed`). So what a value is shown as identifies it, and exactly the Pascal names of constants are read,
each as its constant (`IntEnum.shown_identifies_value`).
-/

namespace LspWire

/-! ## Names in capitals -/

/-- Whether a character is a capital letter or a digit. -/
def isCapital (c : Char) : Bool := c.isUpper || c.isDigit

/-- Whether a word is a capital letter with capital letters and digits behind it. -/
def isCapitalWord : List Char → Bool
  | [] => false
  | c :: cs => c.isUpper && cs.all isCapital

/-- Whether a name is made of such words, between underscores. -/
def isCapitalName (name : String) : Bool := (nameWords name.toList).all isCapitalWord

/-- A character of a Pascal name in capitals, behind an underscore if it begins a word. -/
def capitalized (c : Char) : List Char := if c.isUpper then ['_', c] else [c.toUpper]

/-- A Pascal name in capitals: `EnumMember` is `ENUM_MEMBER`. -/
def capitalName (s : String) : String := String.ofList ((s.toList.flatMap capitalized).drop 1)

section Capitals

variable {c : Char} {name other : String}

theorem lt_of_isCapital (h : isCapital c = true) : c.toNat < 91 := by
  rcases Bool.or_eq_true_iff.1 h with h | h
  · have hletter : 'A'.val ≤ c.val ∧ c.val ≤ 'Z'.val := of_decide_eq_true h
    exact Nat.lt_succ_of_le (UInt32.le_iff_toNat_le.1 hletter.2)
  · exact Nat.lt_of_le_of_lt (Char.isDigit_iff_toNat.1 h).2 (by decide)

theorem toLower_of_isCapital (h : isCapital c = true) :
    capitalized c.toLower = [c] ∧ c.toLower.isAlphanum = true := by
  have hall : ∀ n < 91, isCapital (Char.ofNat n) = true →
      capitalized (Char.ofNat n).toLower = [Char.ofNat n] ∧ (Char.ofNat n).toLower.isAlphanum = true := by decide
  have hc := hall c.toNat (lt_of_isCapital h)
  rw [Char.ofNat_toNat] at hc
  exact hc h

/-- A name is its words, each behind an underscore, less the first underscore. -/
theorem flatMap_nameWords (cs : List Char) : (nameWords cs).flatMap ('_' :: ·) = '_' :: cs := by
  induction cs with
  | nil => rfl
  | cons c cs ih =>
    rw [nameWords]
    split
    · next h => simp [h] at ih
    · next w ws h =>
      rw [h, List.flatMap_cons, List.cons_append, List.cons.injEq] at ih
      split
      · next hc => simp [beq_iff_eq.1 hc, ih.2]
      · simp [ih.2]

/-- A word in capitals is read back from its Pascal form, with the underscore before it. -/
theorem flatMap_pascalWord {w : List Char} (h : isCapitalWord w = true) :
    (pascalWord w).flatMap capitalized = '_' :: w := by
  cases w with
  | nil => cases h
  | cons c cs =>
    simp only [isCapitalWord, Bool.and_eq_true, List.all_eq_true] at h
    have hrest : (cs.map Char.toLower).flatMap capitalized = cs.flatMap fun d => [d] := by
      rw [List.flatMap_map]
      exact List.flatMap_congr fun d hd => (toLower_of_isCapital (h.2 d hd)).1
    rw [pascalWord, List.flatMap_cons, hrest, List.flatMap_singleton', capitalized, if_pos h.1]
    rfl

/-- **A name in capitals is read back from its Pascal form.** -/
theorem capitalName_pascalName (h : isCapitalName name = true) : capitalName (pascalName name) = name := by
  have hwords : ((nameWords name.toList).flatMap pascalWord).flatMap capitalized = '_' :: name.toList := by
    rw [List.flatMap_assoc, ← flatMap_nameWords]
    exact List.flatMap_congr fun w hw => flatMap_pascalWord (List.all_eq_true.1 h w hw)
  rw [capitalName, pascalName, String.toList_ofList, hwords, List.drop_one, List.tail_cons, String.ofList_toList]

theorem pascalName_inj (h : isCapitalName name = true) (h' : isCapitalName other = true) :
    pascalName name = pascalName other ↔ name = other := by
  refine ⟨fun he => ?_, congrArg pascalName⟩
  rw [← capitalName_pascalName h, ← capitalName_pascalName h', he]

/-- The Pascal form of a name in capitals holds letters and digits only. -/
theorem isAlphanum_of_mem_pascalName (h : isCapitalName name = true) (hc : c ∈ (pascalName name).toList) :
    c.isAlphanum = true := by
  rw [pascalName, String.toList_ofList] at hc
  obtain ⟨w, hw, hc⟩ := List.mem_flatMap.1 hc
  have hword := List.all_eq_true.1 h w hw
  cases w with
  | nil => cases hword
  | cons d ds =>
    simp only [isCapitalWord, Bool.and_eq_true, List.all_eq_true] at hword
    rcases List.mem_cons.1 hc with rfl | hc
    · have halpha : c.isAlpha = true := Bool.or_eq_true_iff.2 (.inl hword.1)
      exact Bool.or_eq_true_iff.2 (.inl halpha)
    · obtain ⟨d, hd, rfl⟩ := List.mem_map.1 hc
      exact (toLower_of_isCapital (hword.2 d hd)).2

end Capitals

/-! ## Constants told apart -/

/-- The values of constants. -/
def Constants.values {α : Type} (c : Constants α) : List α := c.members.map (·.2)

/-- Constants told apart by name and by value. The names are in capitals, and their Pascal forms are not. -/
structure Constants.WellNamed (c : Constants Int) : Prop where
  capital : ∀ m ∈ c.members, isCapitalName m.1 = true
  lower : ∀ m ∈ c.members, (pascalName m.1).toList.any Char.isLower = true
  names : (c.members.map (·.1)).Nodup
  values : c.values.Nodup

theorem IntEnum.wellNamed (e : IntEnum) : e.constants.WellNamed where
  capital := List.all_eq_true.1 (by cases e <;> decide +kernel)
  lower := List.all_eq_true.1 (by cases e <;> decide +kernel)
  names := by cases e <;> decide +kernel
  values := by cases e <;> decide +kernel

/-- Where no two elements have one key, the first element with a key is the one with it. -/
theorem find?_key_eq_some_iff {α κ : Type} [BEq κ] [LawfulBEq κ] {key : α → κ} {l : List α} {k : κ} {a : α}
    (h : ∀ ⦃x⦄, x ∈ l → ∀ ⦃y⦄, y ∈ l → key x = key y → x = y) :
    (l.find? fun x => key x == k) = some a ↔ a ∈ l ∧ key a = k := by
  have hkey {b : α} (hb : (l.find? fun x => key x == k) = some b) : key b = k := by simpa using List.find?_some hb
  refine ⟨fun ha => ⟨List.mem_of_find?_eq_some ha, hkey ha⟩, fun ⟨ha, hk⟩ => ?_⟩
  have hsome : (l.find? fun x => key x == k).isSome := List.find?_isSome.2 ⟨a, ha, beq_iff_eq.2 hk⟩
  obtain ⟨b, hb⟩ := Option.isSome_iff_exists.1 hsome
  rw [hb, h (List.mem_of_find?_eq_some hb) ha ((hkey hb).trans hk.symm)]

namespace Constants

variable {c : Constants Int} {n : Int} {name : String}

theorem mem_values : n ∈ c.values ↔ ∃ name, (name, n) ∈ c.members := by simp [values]

theorem nameOf?_eq_some_iff (h : c.WellNamed) : c.nameOf? n = some name ↔ (name, n) ∈ c.members := by
  simp [nameOf?, find?_key_eq_some_iff (List.inj_on_of_nodup_map h.values)]

theorem nameOf?_eq_none_iff : c.nameOf? n = none ↔ n ∉ c.values := by
  rw [nameOf?, Option.map_eq_none_iff, List.find?_eq_none, values, List.mem_map]
  simp only [not_exists, not_and, beq_iff_eq]

end Constants

/-! ## What is shown and read -/

namespace IntEnum

variable {e : IntEnum} {m n : Int} {name s : String}

theorem isKnown_iff : e.isKnown n = true ↔ n ∈ e.constants.values := by
  rw [isKnown, ← Option.ne_none_iff_isSome, ne_eq, Constants.nameOf?_eq_none_iff, not_not]

/-- A constant is shown by its Pascal name. -/
theorem shown_of_mem (h : (name, n) ∈ e.constants.members) : e.shown n = pascalName name := by
  rw [shown, (Constants.nameOf?_eq_some_iff e.wellNamed).2 h]

/-- A value without a name is shown with its number in parentheses. -/
theorem shown_of_not_mem (h : n ∉ e.constants.values) :
    e.shown n = e.constants.name ++ "(" ++ String.ofList (Json.intText n) ++ ")" := by
  rw [shown, Constants.nameOf?_eq_none_iff.2 h]

/-- Only a value without a name is shown with a parenthesis. -/
theorem paren_mem_shown_iff : '(' ∈ (e.shown n).toList ↔ n ∉ e.constants.values := by
  refine ⟨fun hparen hn => ?_, fun hn => ?_⟩
  · obtain ⟨name, hname⟩ := Constants.mem_values.1 hn
    rw [shown_of_mem hname] at hparen
    exact absurd (isAlphanum_of_mem_pascalName (e.wellNamed.capital _ hname) hparen) (by decide)
  · simp [shown_of_not_mem hn]

/-- The names of constants are told apart by their Pascal forms. -/
theorem eq_of_pascalName_eq ⦃x : String × Int⦄ (hx : x ∈ e.constants.members) ⦃y : String × Int⦄
    (hy : y ∈ e.constants.members) (h : pascalName x.1 = pascalName y.1) : x = y := by
  have hnames := (pascalName_inj (e.wellNamed.capital x hx) (e.wellNamed.capital y hy)).1 h
  exact List.inj_on_of_nodup_map e.wellNamed.names hx hy hnames

theorem shown_inj : e.shown m = e.shown n ↔ m = n := by
  refine ⟨fun h => ?_, congrArg e.shown⟩
  have hmem : m ∉ e.constants.values ↔ n ∉ e.constants.values := by
    rw [← paren_mem_shown_iff, ← paren_mem_shown_iff, h]
  by_cases hm : m ∈ e.constants.values
  · obtain ⟨a, ha⟩ := Constants.mem_values.1 hm
    obtain ⟨b, hb⟩ := Constants.mem_values.1 (not_not.1 (mt hmem.2 (not_not.2 hm)))
    rw [shown_of_mem ha, shown_of_mem hb] at h
    exact congrArg Prod.snd (eq_of_pascalName_eq ha hb h)
  · rw [shown_of_not_mem hm, shown_of_not_mem (hmem.1 hm)] at h
    have htext := String.ofList_injective ((String.append_right_inj _).1 ((String.append_left_inj _).1 h))
    exact Json.intText_injective htext

/-- Exactly the Pascal names of constants are read, each as its constant. -/
theorem ofPascalName?_eq_some_iff : e.ofPascalName? s = some n ↔ n ∈ e.constants.values ∧ e.shown n = s := by
  rw [ofPascalName?, Option.map_eq_some_iff]
  simp only [find?_key_eq_some_iff eq_of_pascalName_eq]
  constructor
  · rintro ⟨⟨name, n⟩, ⟨hmem, hname⟩, rfl⟩
    exact ⟨Constants.mem_values.2 ⟨name, hmem⟩, (shown_of_mem hmem).trans hname⟩
  · rintro ⟨hn, hs⟩
    obtain ⟨name, hmem⟩ := Constants.mem_values.1 hn
    exact ⟨(name, n), ⟨hmem, (shown_of_mem hmem).symm.trans hs⟩, rfl⟩

theorem ofPascalName?_eq_none_iff : e.ofPascalName? s = none ↔ ∀ n ∈ e.constants.values, e.shown n ≠ s := by
  simp [Option.eq_none_iff_forall_ne_some, ofPascalName?_eq_some_iff]

/-- A 32-bit integer stands for itself. -/
theorem ofJson?_int (h : isInt32 n = true) : e.ofJson? (.int n) = some n := by
  rw [ofJson?]
  split
  · next m hm => simpa [Json.same, Json.number?, Json.sameNumber] using List.find?_some hm
  · exact if_pos h

/-- **What a value is shown as identifies it, and exactly the Pascal names of constants are read, each as its
    constant.** So neither what a value without a name is shown as nor a text without small letters is read. -/
theorem shown_identifies_value (e : IntEnum) :
    (∀ n, isInt32 n = true → e.ofJson? (.int n) = some n) ∧
    (∀ m n, e.shown m = e.shown n ↔ m = n) ∧
    (∀ s n, e.ofPascalName? s = some n ↔ n ∈ e.constants.values ∧ e.shown n = s) ∧
    (∀ s, e.ofPascalName? s = none ↔ ∀ n ∈ e.constants.values, e.shown n ≠ s) ∧
    (∀ n, e.isKnown n = false → e.ofPascalName? (e.shown n) = none) ∧
    ∀ s, (∀ c ∈ s.toList, c.isLower = false) → e.ofPascalName? s = none := by
  refine ⟨fun n => ofJson?_int, fun m n => shown_inj, fun s n => ofPascalName?_eq_some_iff,
    fun s => ofPascalName?_eq_none_iff, fun n hn => ?_, fun s hs => ?_⟩
  · refine ofPascalName?_eq_none_iff.2 fun m hm h => Bool.eq_false_iff.1 hn (isKnown_iff.2 ?_)
    rwa [← shown_inj.1 h]
  · refine ofPascalName?_eq_none_iff.2 fun n hn h => ?_
    obtain ⟨name, hmem⟩ := Constants.mem_values.1 hn
    have hlower := e.wellNamed.lower _ hmem
    rw [← shown_of_mem hmem, h, List.any_eq_true] at hlower
    obtain ⟨c, hc, hlower⟩ := hlower
    exact Bool.false_ne_true ((hs c hc).symm.trans hlower)

/-- The symbol kinds 22 and 99, one with a name and one without, and what is read of the texts about them. -/
theorem symbol_kinds_shown_and_read :
    isInt32 99 = true ∧ symbolKind.ofJson? (.int 99) = some 99 ∧ symbolKind.isKnown 99 = false ∧
    symbolKind.shown 22 = "EnumMember" ∧ symbolKind.shown 99 = "SymbolKind(99)" ∧
    symbolKind.ofPascalName? "EnumMember" = some 22 ∧ symbolKind.ofPascalName? "SymbolKind(99)" = none ∧
    symbolKind.ofPascalName? "ENUM_MEMBER" = none := by
  obtain ⟨hint, -, hread, -, hunknown, hcapital⟩ := shown_identifies_value .symbolKind
  have h22 : symbolKind.shown 22 = "EnumMember" := by decide
  have h99 : symbolKind.shown 99 = "SymbolKind(99)" := by decide
  have hnew : symbolKind.isKnown 99 = false := by decide
  refine ⟨by decide, hint 99 (by decide), hnew, h22, h99, (hread _ _).2 ⟨by decide, h22⟩, ?_, hcapital _ (by simp)⟩
  exact h99 ▸ hunknown 99 hnew

end IntEnum

end LspWire
