import LspWire.Proofs.Tokens

/-!
# JSON text read back

A value whose numbers are short integers is read back from its compact text (`ofText?_toText`): the text is split into
the tokens of the value (`tokensOf`), and these are read as the value. Whatever text is read, its integers are short
(`short_of_ofText?`). The text of a value without floats holds no control character, whatever its strings hold
(`not_control_chars`).
-/

namespace LspWire.Json

/-- What holds of every character of a text is checked on the characters there are. -/
theorem forall_mem_of_all {p : Char → Prop} [DecidablePred p] {cs : List Char}
    (h : cs.all (fun c => decide (p c)) = true) : ∀ c ∈ cs, p c :=
  fun c hc => of_decide_eq_true (List.all_eq_true.1 h c hc)

/-! ## Tokens of a value -/

mutual

/-- The tokens of a value. -/
def tokensOf : Json → List Token
  | .str s => [.text s]
  | .arr [] => [.openArray, .closeArray]
  | .arr (j :: js) => .openArray :: (tokensOf j ++ moreItemTokens js)
  | .obj [] => [.openObject, .closeObject]
  | .obj ((k, j) :: ms) => .openObject :: .text k :: .colon :: (tokensOf j ++ moreMemberTokens ms)
  | j => [.word j]

/-- The tokens of the elements after the first, and of the end of the array. -/
def moreItemTokens : List Json → List Token
  | [] => [.closeArray]
  | j :: js => .comma :: (tokensOf j ++ moreItemTokens js)

/-- The tokens of the members after the first, and of the end of the object. -/
def moreMemberTokens : List (String × Json) → List Token
  | [] => [.closeObject]
  | (k, j) :: ms => .comma :: .text k :: .colon :: (tokensOf j ++ moreMemberTokens ms)

end

/-- Whether a number is an integer that is short enough to be read. -/
def ShortInt : Int ⊕ Double → Prop
  | .inl n => Short n
  | .inr _ => False

/-- A word ends before a mark. -/
theorem endsWord_mark {c : Char} (cs : List Char) (h : (Token.mark? c).isSome = true) : EndsWord (c :: cs) := by
  intro d hd
  cases hd
  simp [endsWord, h]

theorem endsWord_moreItems (js : List Json) (rest : List Char) : EndsWord (moreItems js ++ rest) := by
  cases js <;> exact endsWord_mark _ rfl

theorem endsWord_moreMembers (ms : List (String × Json)) (rest : List Char) : EndsWord (moreMembers ms ++ rest) := by
  cases ms <;> exact endsWord_mark _ rfl

section Marks

variable (cs : List Char)

theorem tokens_openArray : tokens ('[' :: cs) = (tokens cs).map (.openArray :: ·) := tokens_mark cs rfl rfl

theorem tokens_closeArray : tokens (']' :: cs) = (tokens cs).map (.closeArray :: ·) := tokens_mark cs rfl rfl

theorem tokens_openObject : tokens ('\x7b' :: cs) = (tokens cs).map (.openObject :: ·) := tokens_mark cs rfl rfl

theorem tokens_closeObject : tokens ('\x7d' :: cs) = (tokens cs).map (.closeObject :: ·) := tokens_mark cs rfl rfl

theorem tokens_colon : tokens (':' :: cs) = (tokens cs).map (.colon :: ·) := tokens_mark cs rfl rfl

theorem tokens_comma : tokens (',' :: cs) = (tokens cs).map (.comma :: ·) := tokens_mark cs rfl rfl

end Marks

mutual

/-- The text of a value is split into its tokens. -/
theorem tokens_chars : ∀ {j : Json}, (∀ y ∈ j.numbers, ShortInt y) → ∀ {rest : List Char}, EndsWord rest →
    tokens (chars j ++ rest) = (tokens rest).map (tokensOf j ++ ·)
  | .null, _, _, hr => tokens_word (by decide) (forall_mem_of_all rfl) hr
  | .bool true, _, _, hr => tokens_word (by decide) (forall_mem_of_all rfl) hr
  | .bool false, _, _, hr => tokens_word (by decide) (forall_mem_of_all rfl) hr
  | .int n, hn, rest, hr => by
    have hshort : Short n := hn _ List.mem_cons_self
    rw [chars, tokens_word (intText_ne_nil n) (fun d => not_endsWord_intText) hr, word?_intText, if_pos hshort]
    rfl
  | .float x, hn, _, _ => (hn _ List.mem_cons_self).elim
  | .str s, _, rest, _ => tokens_string s rest
  | .arr [], _, rest, _ => by
    rw [chars, List.cons_append, List.cons_append, List.nil_append, tokens_openArray, tokens_closeArray,
      Option.map_map]
    rfl
  | .arr (j :: js), hn, rest, hr => by
    rw [numbers, itemNumbers, List.forall_mem_append] at hn
    rw [chars, List.cons_append, List.append_assoc, tokens_openArray, tokens_chars hn.1 (endsWord_moreItems js rest),
      tokens_moreItems hn.2 hr, tokensOf]
    simp [Option.map_map, Function.comp_def]
  | .obj [], _, rest, _ => by
    rw [chars, List.cons_append, List.cons_append, List.nil_append, tokens_openObject, tokens_closeObject,
      Option.map_map]
    rfl
  | .obj ((k, j) :: ms), hn, rest, hr => by
    rw [numbers, memberNumbers, List.forall_mem_append] at hn
    rw [chars, List.cons_append, List.append_assoc, List.cons_append, List.append_assoc, tokens_openObject,
      tokens_string, tokens_colon, tokens_chars hn.1 (endsWord_moreMembers ms rest), tokens_moreMembers hn.2 hr,
      tokensOf]
    simp [Option.map_map, Function.comp_def]

theorem tokens_moreItems : ∀ {js : List Json}, (∀ y ∈ itemNumbers js, ShortInt y) → ∀ {rest : List Char},
    EndsWord rest → tokens (moreItems js ++ rest) = (tokens rest).map (moreItemTokens js ++ ·)
  | [], _, rest, _ => by
    rw [moreItems, List.cons_append, List.nil_append, tokens_closeArray]
    rfl
  | j :: js, hn, rest, hr => by
    rw [itemNumbers, List.forall_mem_append] at hn
    rw [moreItems, List.cons_append, List.append_assoc, tokens_comma,
      tokens_chars hn.1 (endsWord_moreItems js rest), tokens_moreItems hn.2 hr, moreItemTokens]
    simp [Option.map_map, Function.comp_def]

theorem tokens_moreMembers : ∀ {ms : List (String × Json)}, (∀ y ∈ memberNumbers ms, ShortInt y) →
    ∀ {rest : List Char}, EndsWord rest →
      tokens (moreMembers ms ++ rest) = (tokens rest).map (moreMemberTokens ms ++ ·)
  | [], _, rest, _ => by
    rw [moreMembers, List.cons_append, List.nil_append, tokens_closeObject]
    rfl
  | (k, j) :: ms, hn, rest, hr => by
    rw [memberNumbers, List.forall_mem_append] at hn
    rw [moreMembers, List.cons_append, List.append_assoc, List.cons_append, List.append_assoc, tokens_comma,
      tokens_string, tokens_colon, tokens_chars hn.1 (endsWord_moreMembers ms rest), tokens_moreMembers hn.2 hr,
      moreMemberTokens]
    simp [Option.map_map, Function.comp_def]

end

/-! ## Reading the tokens -/

mutual

/-- The tokens of a value are read as the value. -/
theorem run_tokensOf : ∀ (j : Json) (fs : List Frame) (ts : List Token),
    run .value fs (tokensOf j ++ ts) = run (.separator j) fs ts ∧
      run .element fs (tokensOf j ++ ts) = run (.separator j) fs ts
  | .null, fs, ts => ⟨rfl, rfl⟩
  | .bool b, fs, ts => ⟨rfl, rfl⟩
  | .int n, fs, ts => ⟨rfl, rfl⟩
  | .float x, fs, ts => ⟨rfl, rfl⟩
  | .str s, fs, ts => ⟨rfl, rfl⟩
  | .arr [], fs, ts => ⟨rfl, rfl⟩
  | .obj [], fs, ts => ⟨rfl, rfl⟩
  | .arr (j :: js), fs, ts => by
    have hitems : run .element (.array [] :: fs) (tokensOf j ++ (moreItemTokens js ++ ts)) =
        run (.separator (.arr (j :: js))) fs ts := by
      rw [(run_tokensOf j _ _).2, run_moreItemTokens js j [] fs ts]
      rfl
    constructor <;> rw [tokensOf, List.cons_append, List.append_assoc, run, hitems]
  | .obj ((k, j) :: ms), fs, ts => by
    have hmembers : run .value (.object [] k :: fs) (tokensOf j ++ (moreMemberTokens ms ++ ts)) =
        run (.separator (.obj ((k, j) :: ms))) fs ts := by
      rw [(run_tokensOf j _ _).1, run_moreMemberTokens ms k j [] fs ts]
      rfl
    constructor <;>
      rw [tokensOf, List.cons_append, List.cons_append, List.cons_append, List.append_assoc, run, run, run, hmembers]

theorem run_moreItemTokens : ∀ (js : List Json) (j : Json) (done : List Json) (fs : List Frame) (ts : List Token),
    run (.separator j) (.array done :: fs) (moreItemTokens js ++ ts) =
      run (.separator (.arr (done.reverse ++ j :: js))) fs ts
  | [], j, done, fs, ts => by
    rw [moreItemTokens, List.cons_append, List.nil_append, run, List.reverse_cons]
  | j' :: js, j, done, fs, ts => by
    rw [moreItemTokens, List.cons_append, List.append_assoc, run, (run_tokensOf j' _ _).1,
      run_moreItemTokens js j' (j :: done) fs ts, List.reverse_cons, List.append_assoc, List.singleton_append]

theorem run_moreMemberTokens : ∀ (ms : List (String × Json)) (k : String) (j : Json) (done : List (String × Json))
    (fs : List Frame) (ts : List Token), run (.separator j) (.object done k :: fs) (moreMemberTokens ms ++ ts) =
      run (.separator (.obj (done.reverse ++ (k, j) :: ms))) fs ts
  | [], k, j, done, fs, ts => by
    rw [moreMemberTokens, List.cons_append, List.nil_append, run, List.reverse_cons]
  | (k', j') :: ms, k, j, done, fs, ts => by
    rw [moreMemberTokens, List.cons_append, List.cons_append, List.cons_append, List.append_assoc, run, run, run,
      (run_tokensOf j' _ _).1, run_moreMemberTokens ms k' j' ((k, j) :: done) fs ts, List.reverse_cons,
      List.append_assoc, List.singleton_append]

end

/-- **A value is read back from its text.** -/
theorem ofText?_toText {j : Json} (h : ∀ y ∈ j.numbers, ShortInt y) : ofText? j.toText = some j := by
  have htokens : tokens (chars j) = some (tokensOf j) := by
    rw [← List.append_nil (chars j), tokens_chars h (by simp [EndsWord]), tokens, Option.map_some, List.append_nil]
  have hrun : run .value [] (tokensOf j) = some j := by
    rw [← List.append_nil (tokensOf j), (run_tokensOf j [] []).1, run]
  rw [ofText?, toText, String.toList_ofList, htokens]
  exact hrun

/-! ## Integers of a text -/

/-- The numbers in what an open container holds. -/
def Frame.numbers : Frame → List (Int ⊕ Double)
  | .array done => itemNumbers done
  | .object done _ => memberNumbers done

/-- The numbers in what was read last. -/
def Expecting.numbers : Expecting → List (Int ⊕ Double)
  | .separator j => j.numbers
  | .key done | .colon done _ => memberNumbers done
  | _ => []

/-- A number that is read stands in a token, if not in what was read before. -/
theorem mem_numbers_of_run {y : Int ⊕ Double} (e : Expecting) (fs : List Frame) (ts : List Token) : ∀ {j : Json},
    run e fs ts = some j → y ∈ j.numbers →
      y ∈ e.numbers ∨ y ∈ fs.flatMap Frame.numbers ∨ y ∈ ts.flatMap Token.numbers := by
  fun_induction run e fs ts
  case case1 =>
    intro j h hy
    cases h
    exact .inl hy
  -- a token is dropped, becomes a value, or closes a container whose parts are then one value
  all_goals
    intro j h hy
    first
    | contradiction
    | next ih =>
      have hnext := ih h hy
      simp only [List.flatMap_cons, List.mem_append, Expecting.numbers, Frame.numbers, Token.numbers, numbers,
        itemNumbers, memberNumbers, mem_itemNumbers, mem_memberNumbers, List.mem_reverse, List.mem_cons,
        exists_eq_or_imp, List.not_mem_nil, false_or, or_assoc] at hnext ⊢
      grind

/-- The integers that are read from a text are short. -/
theorem short_of_ofText? {s : String} {j : Json} (h : ofText? s = some j) {n : Int} (hn : .inl n ∈ j.numbers) :
    Short n := by
  unfold ofText? at h
  split at h
  · next ts hts =>
    rcases mem_numbers_of_run _ _ _ h hn with hn | hn | hn
    · cases hn
    · cases hn
    · obtain ⟨t, ht, hn⟩ := List.mem_flatMap.1 hn
      exact short_of_tokens _ hts t ht n hn
  · cases h

/-! ## Characters of a text -/

theorem not_control_hexDigit : ∀ n < 16, ¬ Text.hexDigit n < ' ' := by decide

theorem not_control_hex : ∀ (width n : Nat), ∀ c ∈ Text.hex width n, ¬ c < ' '
  | 0, _, _, hc => absurd hc List.not_mem_nil
  | width + 1, n, c, hc => by
    rw [Text.hex, List.mem_cons] at hc
    rcases hc with rfl | hc
    · exact not_control_hexDigit _ (Nat.mod_lt _ (by decide))
    · exact not_control_hex width n c hc

theorem not_control_of_isDigit {c : Char} (h : isDigit c = true) : ¬ c < ' ' := by
  rw [isDigit, Bool.and_eq_true, decide_eq_true_iff] at h
  exact fun hc => absurd (Std.lt_of_le_of_lt h.1 hc) (by decide)

theorem not_control_intText (n : Int) : ∀ c ∈ intText n, ¬ c < ' ' := by
  unfold intText
  split
  · exact List.forall_mem_cons.2 ⟨by decide, fun c hc => not_control_of_isDigit (isDigit_digits hc)⟩
  · exact fun c hc => not_control_of_isDigit (isDigit_digits hc)

/-- Whatever a character is, it is escaped without control characters. -/
theorem not_control_escaped (c : Char) : ∀ d ∈ escaped c, ¬ d < ' ' := by
  unfold escaped
  iterate 7 (split; · exact forall_mem_of_all rfl)
  split
  · exact List.forall_mem_cons.2 ⟨by decide, List.forall_mem_cons.2 ⟨by decide, not_control_hex 4 _⟩⟩
  · next hc => exact List.forall_mem_cons.2 ⟨hc, by simp⟩

/-- The text of a string holds no control character, since each of its own is escaped. -/
theorem not_control_stringText (s : String) : ∀ c ∈ stringText s, ¬ c < ' ' := by
  rw [stringText, List.forall_mem_cons, List.forall_mem_append]
  refine ⟨by decide, fun c hc => ?_, forall_mem_of_all rfl⟩
  obtain ⟨d, -, hc⟩ := List.mem_flatMap.1 hc
  exact not_control_escaped d c hc

mutual

/-- **The text of a value without floats holds no control character.** -/
theorem not_control_chars : ∀ {j : Json}, (∀ x, .inr x ∉ j.numbers) → ∀ c ∈ chars j, ¬ c < ' '
  | .null, _ | .bool true, _ | .bool false, _ => by rw [chars]; exact forall_mem_of_all rfl
  | .int n, _ => not_control_intText n
  | .float x, h => absurd List.mem_cons_self (h x)
  | .str s, _ => not_control_stringText s
  | .arr [], _ | .obj [], _ => by rw [chars]; exact forall_mem_of_all rfl
  | .arr (j :: js), h => by
    simp only [numbers, itemNumbers, List.mem_append, not_or, forall_and] at h
    rw [chars, List.forall_mem_cons, List.forall_mem_append]
    exact ⟨by decide, not_control_chars h.1, not_control_moreItems h.2⟩
  | .obj ((k, j) :: ms), h => by
    simp only [numbers, memberNumbers, List.mem_append, not_or, forall_and] at h
    rw [chars, List.forall_mem_cons, List.forall_mem_append, List.forall_mem_cons, List.forall_mem_append]
    exact ⟨by decide, not_control_stringText k, by decide, not_control_chars h.1, not_control_moreMembers h.2⟩

theorem not_control_moreItems : ∀ {js : List Json}, (∀ x, .inr x ∉ itemNumbers js) →
    ∀ c ∈ moreItems js, ¬ c < ' '
  | [], _ => by rw [moreItems]; exact forall_mem_of_all rfl
  | j :: js, h => by
    simp only [itemNumbers, List.mem_append, not_or, forall_and] at h
    rw [moreItems, List.forall_mem_cons, List.forall_mem_append]
    exact ⟨by decide, not_control_chars h.1, not_control_moreItems h.2⟩

theorem not_control_moreMembers : ∀ {ms : List (String × Json)}, (∀ x, .inr x ∉ memberNumbers ms) →
    ∀ c ∈ moreMembers ms, ¬ c < ' '
  | [], _ => by rw [moreMembers]; exact forall_mem_of_all rfl
  | (k, j) :: ms, h => by
    simp only [memberNumbers, List.mem_append, not_or, forall_and] at h
    rw [moreMembers, List.forall_mem_cons, List.forall_mem_append, List.forall_mem_cons, List.forall_mem_append]
    exact ⟨by decide, not_control_stringText k, by decide, not_control_chars h.1, not_control_moreMembers h.2⟩

end

end LspWire.Json
