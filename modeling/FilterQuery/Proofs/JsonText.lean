import FilterQuery.Json.Read
import FilterQuery.Json.Write
import FilterQuery.Proofs.Basics
import FilterQuery.Proofs.RecordLayout

/-!
# JSON text is read back

A value that is written over several lines is read back (`Json.read?_pretty`), if it has no numbers
and no object in it has a key twice. This is shown in the two halves that reading has. `tokenList`
are the tokens of a value, without a text: the text of a value is read as its tokens whatever the
indentation (`lexes_prettyAt`), and its tokens make up the value again (`run_tokenList`).
-/

namespace FilterQuery.Json

/-! ### Strings -/

section Strings

variable {text after rest : List Char}

theorem unescape_short {letter c : Char} (hc : shortEscape? letter = some c)
    (h : unescape rest = some (text, after)) :
    unescape ('\\' :: letter :: rest) = some (c :: text, after) := by
  have hletter : letter ≠ 'u' := by
    rintro rfl
    exact absurd hc nofun
  simp [unescape, hc, h, hletter]

theorem unescape_plain {c : Char} (hquote : c ≠ '"') (hslash : c ≠ '\\')
    (hcontrol : ¬ c.toNat < 0x20) (h : unescape rest = some (text, after)) :
    unescape (c :: rest) = some (c :: text, after) := by
  simp [unescape, hslash, hcontrol, h]

/-- A code unit that is no half of a pair is a character of its own, also in front of another. -/
theorem unescape_unit {a b c d : Char} {n : Nat} (hn : hexFour? a b c d = some n) (hlt : n < 0xD800)
    (h : unescape rest = some (text, after)) :
    unescape ('\\' :: 'u' :: a :: b :: c :: d :: rest) = some (Char.ofNat n :: text, after) := by
  have hhigh : isHighSurrogate n = false := by
    simp only [isHighSurrogate, Bool.and_eq_false_iff, decide_eq_false_iff_not]
    omega
  have hlow : isLowSurrogate n = false := by
    simp only [isLowSurrogate, Bool.and_eq_false_iff, decide_eq_false_iff_not]
    omega
  by_cases hpair : ∃ e f g k more, rest = '\\' :: 'u' :: e :: f :: g :: k :: more
  · obtain ⟨e, f, g, k, more, rfl⟩ := hpair
    rw [unescape]
    simp [hn, hhigh, hlow, h]
  · simp only [not_exists] at hpair
    rw [unescape]
    · simp [hn, hhigh, hlow, h]
    · exact fun e f g k more => hpair e f g k more

theorem hexFour?_lowerHexDigit {n : Nat} (h : n < 0x20) :
    hexFour? '0' '0' (lowerHexDigit (n / 16)) (lowerHexDigit (n % 16)) = some n := by
  have hcontrols : ∀ n < 0x20,
      hexFour? '0' '0' (lowerHexDigit (n / 16)) (lowerHexDigit (n % 16)) = some n := by decide
  exact hcontrols n h

/-- An escaped character is read as the character. -/
theorem unescape_escapeChar (c : Char) (h : unescape rest = some (text, after)) :
    unescape (escapeChar c ++ rest) = some (c :: text, after) := by
  unfold escapeChar
  iterate 7
    split
    · next hc =>
      subst hc
      exact unescape_short rfl h
  split
  · next hcontrol =>
    have hunit := unescape_unit (hexFour?_lowerHexDigit hcontrol) (by omega) h
    rwa [Char.ofNat_toNat] at hunit
  · next hquote hslash _ _ _ _ _ hcontrol => exact unescape_plain hquote hslash hcontrol h

/-- **A quoted string is read back**, up to its closing quote. -/
theorem unescape_flatMap_escapeChar (cs rest : List Char) :
    unescape (cs.flatMap escapeChar ++ '"' :: rest) = some (cs, rest) := by
  induction cs with
  | nil => rw [List.flatMap_nil, List.nil_append, unescape]
  | cons c cs ih =>
    rw [List.flatMap_cons, List.append_assoc]
    exact unescape_escapeChar c ih

end Strings

/-! ### Tokens -/

mutual

/-- The tokens of a value. -/
def tokenList : Json → List Token
  | array [] => [.openArray, .closeArray]
  | array (item :: items) => .openArray :: (tokenList item ++ (itemTokens items ++ [.closeArray]))
  | object [] => [.openObject, .closeObject]
  | object ((key, value) :: members) =>
    .openObject :: .string key :: .colon ::
      (tokenList value ++ (memberTokens members ++ [.closeObject]))
  | string value => [.string value]
  | value => [.scalar value]

/-- The tokens of the items after the first one. -/
def itemTokens : List Json → List Token
  | [] => []
  | item :: items => .comma :: (tokenList item ++ itemTokens items)

/-- The tokens of the members after the first one. -/
def memberTokens : List (String × Json) → List Token
  | [] => []
  | (key, value) :: members =>
    .comma :: .string key :: .colon :: (tokenList value ++ memberTokens members)

end

/-- The text is read as the tokens, whatever measure bounds its length. -/
def Lexes (cs : List Char) (ts : List Token) : Prop :=
  ∀ fuel, cs.length ≤ fuel → tokensWithin fuel cs = some ts

/-- No word goes on with the text. -/
def Stops (cs : List Char) : Prop := ∀ c ∈ cs.head?, c.isAlpha = false

section Lexing

variable {rest after : List Char} {ts : List Token} {level : Nat}

theorem lexes_nil : Lexes [] [] := by
  intro fuel _
  cases fuel <;> rfl

theorem Lexes.space {c : Char} (hc : isSpace c) (h : Lexes rest ts) : Lexes (c :: rest) ts := by
  intro fuel hfuel
  cases fuel with
  | zero => exact absurd hfuel (by simp)
  | succ fuel =>
    rw [tokensWithin, if_pos hc]
    exact h fuel (by simpa using hfuel)

theorem Lexes.token {c : Char} {token : Token} (hc : isSpace c = false)
    (htoken : takeToken? c rest = some (token, after)) (hlength : after.length ≤ rest.length)
    (h : Lexes after ts) : Lexes (c :: rest) (token :: ts) := by
  intro fuel hfuel
  cases fuel with
  | zero => exact absurd hfuel (by simp)
  | succ fuel =>
    have hafter := h fuel (by simp only [List.length_cons] at hfuel; omega)
    simp [tokensWithin, hc, htoken, hafter]

theorem lexes_newline (h : Lexes rest ts) : Lexes ((newline level).toList ++ rest) ts := by
  have hblanks : ∀ n, Lexes (List.replicate n ' ' ++ rest) ts := by
    intro n
    induction n with
    | zero => exact h
    | succ n ih => exact ih.space (by decide)
  have hnewline : (newline level).toList = '\n' :: List.replicate (2 * level) ' ' := by
    simp [newline, toList_pushn]
  rw [hnewline]
  exact (hblanks _).space (by decide)

theorem lexes_quote (text : String) (h : Lexes rest ts) :
    Lexes ((quote text).toList ++ rest) (.string text :: ts) := by
  have htext : (quote text).toList ++ rest =
      '"' :: (text.toList.flatMap escapeChar ++ '"' :: rest) := by
    simp [quote]
  have htoken : takeToken? '"' (text.toList.flatMap escapeChar ++ '"' :: rest) =
      some (.string text, rest) := by
    simp [takeToken?, unescape_flatMap_escapeChar]
  have hlength : rest.length ≤ (text.toList.flatMap escapeChar ++ '"' :: rest).length := by
    simp only [List.length_append, List.length_cons]
    omega
  rw [htext]
  exact .token rfl htoken hlength h

theorem Lexes.mark {c : Char} {token : Token} (hc : isSpace c = false)
    (htoken : takeToken? c rest = some (token, rest)) (h : Lexes rest ts) :
    Lexes (c :: rest) (token :: ts) :=
  .token hc htoken le_rfl h

/-- A word is read up to the end of its letters. -/
theorem takeToken?_word {c : Char} {letters : List Char} (hc : c.isAlpha)
    (hletters : ∀ d ∈ letters, d.isAlpha) (hstop : Stops rest) :
    takeToken? c (letters ++ rest) = (takeToken? c letters).map fun found => (found.1, rest) := by
  have htake := takeWhile_append_stop hletters hstop
  have hdrop := dropWhile_append_stop hletters hstop
  have htake' := List.takeWhile_eq_self_iff.mpr hletters
  unfold takeToken?
  split
  iterate 7
    · exact absurd hc (by decide)
  simp only [htake, hdrop, htake', hc, if_true]
  split_ifs <;> rfl

theorem Lexes.word {c : Char} {letters : List Char} {value : Json} (hspace : isSpace c = false)
    (hc : c.isAlpha) (hletters : letters.all Char.isAlpha)
    (htoken : takeToken? c letters = some (.scalar value, [])) (hstop : Stops rest)
    (h : Lexes rest ts) : Lexes (c :: (letters ++ rest)) (.scalar value :: ts) := by
  refine .token hspace ?_ ?_ h
  · rw [takeToken?_word hc (List.all_eq_true.mp hletters) hstop, htoken]
    rfl
  · rw [List.length_append]
    omega

end Lexing

/-! ### Values as tokens -/

/-- No numbers are in the value. -/
inductive NumberFree : Json → Prop where
  | null : NumberFree .null
  | bool (b : Bool) : NumberFree (.bool b)
  | string (s : String) : NumberFree (.string s)
  | array {items : List Json} : (∀ item ∈ items, NumberFree item) → NumberFree (.array items)
  | object {members : List (String × Json)} : (∀ entry ∈ members, NumberFree entry.2) →
    NumberFree (.object members)

attribute [simp] NumberFree.null NumberFree.bool NumberFree.string

@[simp] theorem numberFree_array_iff {items : List Json} :
    NumberFree (.array items) ↔ ∀ item ∈ items, item.NumberFree := by
  refine ⟨fun h => ?_, .array⟩
  cases h with
  | array hitems => exact hitems

@[simp] theorem numberFree_object_iff {members : List (String × Json)} :
    NumberFree (.object members) ↔ ∀ entry ∈ members, entry.2.NumberFree := by
  refine ⟨fun h => ?_, .object⟩
  cases h with
  | object hmembers => exact hmembers

theorem stops_newline (level : Nat) (rest : List Char) :
    Stops ((newline level).toList ++ rest) := by
  intro c hc
  simp [newline, toList_pushn] at hc
  subst hc
  decide

theorem stops_prettyItems {rest : List Char} (level : Nat) (items : List Json)
    (hstop : Stops rest) : Stops ((prettyItems level items).toList ++ rest) := by
  cases items with
  | nil => simpa [prettyItems] using hstop
  | cons item items =>
    intro c hc
    simp [prettyItems] at hc
    subst hc
    decide

theorem stops_prettyMembers {rest : List Char} (level : Nat) (members : List (String × Json))
    (hstop : Stops rest) : Stops ((prettyMembers level members).toList ++ rest) := by
  cases members with
  | nil => simpa [prettyMembers] using hstop
  | cons entry members =>
    intro c hc
    simp [prettyMembers] at hc
    subst hc
    decide

theorem toList_prettyAt_array (level : Nat) (item : Json) (items : List Json)
    (rest : List Char) :
    (prettyAt level (.array (item :: items))).toList ++ rest =
      '[' :: ((newline (level + 1)).toList ++ ((prettyAt (level + 1) item).toList ++
        ((prettyItems (level + 1) items).toList ++ ((newline level).toList ++ ']' :: rest)))) := by
  simp [prettyAt]

theorem toList_prettyAt_object (level : Nat) (key : String) (value : Json)
    (members : List (String × Json)) (rest : List Char) :
    (prettyAt level (.object ((key, value) :: members))).toList ++ rest =
      '\x7b' :: ((newline (level + 1)).toList ++ ((quote key).toList ++ ':' :: ' ' ::
        ((prettyAt (level + 1) value).toList ++ ((prettyMembers (level + 1) members).toList ++
          ((newline level).toList ++ '\x7d' :: rest))))) := by
  simp [prettyAt]

theorem toList_prettyItems_cons (level : Nat) (item : Json) (items : List Json)
    (rest : List Char) :
    (prettyItems level (item :: items)).toList ++ rest =
      ',' :: ((newline level).toList ++ ((prettyAt level item).toList ++
        ((prettyItems level items).toList ++ rest))) := by
  simp [prettyItems]

theorem toList_prettyMembers_cons (level : Nat) (key : String) (value : Json)
    (members : List (String × Json)) (rest : List Char) :
    (prettyMembers level ((key, value) :: members)).toList ++ rest =
      ',' :: ((newline level).toList ++ ((quote key).toList ++ ':' :: ' ' ::
        ((prettyAt level value).toList ++ ((prettyMembers level members).toList ++ rest)))) := by
  simp [prettyMembers]

mutual

/-- **A value is read as its tokens**, at whatever indentation it is written. -/
theorem lexes_prettyAt {rest : List Char} {ts : List Token} (level : Nat) :
    ∀ v : Json, v.NumberFree → Stops rest → Lexes rest ts →
      Lexes ((prettyAt level v).toList ++ rest) (tokenList v ++ ts)
  | null, _, hstop, h => by
    have hword : Lexes ('n' :: (['u', 'l', 'l'] ++ rest)) (.scalar .null :: ts) :=
      .word rfl rfl rfl rfl hstop h
    simpa [prettyAt, writeScalar, tokenList] using hword
  | bool true, _, hstop, h => by
    have hword : Lexes ('t' :: (['r', 'u', 'e'] ++ rest)) (.scalar (.bool true) :: ts) :=
      .word rfl rfl rfl rfl hstop h
    simpa [prettyAt, writeScalar, tokenList] using hword
  | bool false, _, hstop, h => by
    have hword : Lexes ('f' :: (['a', 'l', 's', 'e'] ++ rest)) (.scalar (.bool false) :: ts) :=
      .word rfl rfl rfl rfl hstop h
    simpa [prettyAt, writeScalar, tokenList] using hword
  | string text, _, _, h => lexes_quote text h
  | array [], _, _, h => by
    have hmarks : Lexes ('[' :: ']' :: rest) (.openArray :: .closeArray :: ts) :=
      .mark rfl rfl (.mark rfl rfl h)
    simpa [prettyAt, tokenList] using hmarks
  | array (item :: items), hv, _, h => by
    have hparts := List.forall_mem_cons.mp (numberFree_array_iff.mp hv)
    -- a word that is an item ends at the comma or the new line behind it
    rw [toList_prettyAt_array, tokenList, List.cons_append, List.append_assoc, List.append_assoc]
    refine .mark rfl rfl (lexes_newline ?_)
    refine lexes_prettyAt (level + 1) item hparts.1 ?_ ?_
    · exact stops_prettyItems _ items (stops_newline level _)
    · refine lexes_prettyItems (level + 1) items hparts.2 (stops_newline level _) ?_
      exact lexes_newline (.mark rfl rfl h)
  | object [], _, _, h => by
    have hmarks : Lexes ('\x7b' :: '\x7d' :: rest) (.openObject :: .closeObject :: ts) :=
      .mark rfl rfl (.mark rfl rfl h)
    simpa [prettyAt, tokenList] using hmarks
  | object ((key, value) :: members), hv, _, h => by
    have hparts := List.forall_mem_cons.mp (numberFree_object_iff.mp hv)
    rw [toList_prettyAt_object, tokenList, List.cons_append, List.cons_append, List.cons_append,
      List.append_assoc, List.append_assoc]
    refine .mark rfl rfl (lexes_newline (lexes_quote key (.mark rfl rfl (.space rfl ?_))))
    refine lexes_prettyAt (level + 1) value hparts.1 ?_ ?_
    · exact stops_prettyMembers _ members (stops_newline level _)
    · refine lexes_prettyMembers (level + 1) members hparts.2 (stops_newline level _) ?_
      exact lexes_newline (.mark rfl rfl h)
  | integer _, hv, _, _ | float _, hv, _, _ => nomatch hv

theorem lexes_prettyItems {rest : List Char} {ts : List Token} (level : Nat) :
    ∀ items : List Json, (∀ item ∈ items, item.NumberFree) → Stops rest → Lexes rest ts →
      Lexes ((prettyItems level items).toList ++ rest) (itemTokens items ++ ts)
  | [], _, _, h => h
  | item :: items, hitems, hstop, h => by
    have hparts := List.forall_mem_cons.mp hitems
    rw [toList_prettyItems_cons, itemTokens, List.cons_append, List.append_assoc]
    refine .mark rfl rfl (lexes_newline ?_)
    refine lexes_prettyAt level item hparts.1 (stops_prettyItems level items hstop) ?_
    exact lexes_prettyItems level items hparts.2 hstop h

theorem lexes_prettyMembers {rest : List Char} {ts : List Token} (level : Nat) :
    ∀ members : List (String × Json), (∀ entry ∈ members, entry.2.NumberFree) → Stops rest →
      Lexes rest ts →
      Lexes ((prettyMembers level members).toList ++ rest) (memberTokens members ++ ts)
  | [], _, _, h => h
  | (key, value) :: members, hmembers, hstop, h => by
    have hparts := List.forall_mem_cons.mp hmembers
    rw [toList_prettyMembers_cons, memberTokens, List.cons_append, List.cons_append,
      List.cons_append, List.append_assoc]
    refine .mark rfl rfl (lexes_newline (lexes_quote key (.mark rfl rfl (.space rfl ?_))))
    refine lexes_prettyAt level value hparts.1 (stops_prettyMembers level members hstop) ?_
    exact lexes_prettyMembers level members hparts.2 hstop h

end

theorem tokens?_pretty {v : Json} (hv : v.NumberFree) :
    tokens? v.pretty.toList = some v.tokenList := by
  have hlexes : Lexes (v.pretty.toList ++ []) (v.tokenList ++ []) :=
    lexes_prettyAt 0 v hv nofun lexes_nil
  rw [List.append_nil, List.append_nil] at hlexes
  exact hlexes _ le_rfl

/-! ### Tokens as values -/

/-- A member whose key is new goes to the end. -/
theorem insertMember_of_notMem {key : String} {members : List (String × Json)} (value : Json)
    (h : key ∉ members.map (·.1)) : insertMember key value members = members ++ [(key, value)] := by
  induction members with
  | nil => rfl
  | cons entry members ih =>
    simp only [List.map_cons, List.mem_cons, not_or] at h
    rw [insertMember, if_neg (Ne.symm h.1), ih h.2, List.cons_append]

namespace Reading

variable {frames : List Frame} {ts : List Token}

theorem run_cons {r r' : Reading} {token : Token} (h : r.step token = some r') :
    r.run (token :: ts) = r'.run ts := by
  rw [run, h]
  rfl

/-- The first item of an array is read like any other value. -/
theorem run_firstItem (v : Json) :
    run ⟨frames, .firstItem, none⟩ (tokenList v ++ ts) =
      run ⟨frames, .value, none⟩ (tokenList v ++ ts) := by
  cases v with
  | array items => cases items <;> rfl
  | object members => cases members <;> rfl
  | null | bool | integer | float | string => rfl

end Reading

open Reading in
mutual

/-- **The tokens of a value make up the value.** -/
theorem run_tokenList {ts : List Token} (frames : List Frame) :
    ∀ v : Json, v.DistinctKeys →
      run ⟨frames, .value, none⟩ (tokenList v ++ ts) = run (put frames v) ts
  | null, _ | bool _, _ | integer _, _ | float _, _ | string _, _ => run_cons rfl
  | array [], _ => by
    rw [tokenList, List.cons_append]
    exact (run_cons rfl).trans (run_cons rfl)
  | array (item :: items), hv => by
    have hparts := List.forall_mem_cons.mp (distinctKeys_array_iff.mp hv)
    -- the first item stands where the end of the array could stand too
    rw [tokenList, List.cons_append, List.append_assoc, List.append_assoc]
    calc run ⟨frames, .value, none⟩ _
      _ = run ⟨.array [] :: frames, .firstItem, none⟩ _ := run_cons rfl
      _ = run ⟨.array [] :: frames, .value, none⟩ _ := run_firstItem item
      _ = run ⟨.array [item] :: frames, .separator, none⟩ _ := run_tokenList _ item hparts.1
      _ = run (put frames (.array (item :: items))) ts :=
        run_itemTokens frames [item] items hparts.2
  | object [], _ => by
    rw [tokenList, List.cons_append]
    exact (run_cons rfl).trans (run_cons rfl)
  | object ((key, value) :: members), hv => by
    obtain ⟨hkeys, hmembers⟩ := distinctKeys_object_iff.mp hv
    have hparts := List.forall_mem_cons.mp hmembers
    rw [tokenList, List.cons_append, List.cons_append, List.cons_append, List.append_assoc,
      List.append_assoc]
    calc run ⟨frames, .value, none⟩ _
      _ = run ⟨.object [] "" :: frames, .firstKey, none⟩ _ := run_cons rfl
      _ = run ⟨.object [] key :: frames, .colon, none⟩ _ := run_cons rfl
      _ = run ⟨.object [] key :: frames, .value, none⟩ _ := run_cons rfl
      _ = run ⟨.object [(key, value)] key :: frames, .separator, none⟩ _ :=
        run_tokenList _ value hparts.1
      _ = run (put frames (.object ((key, value) :: members))) ts :=
        run_memberTokens frames [(key, value)] key members hkeys hparts.2

theorem run_itemTokens {ts : List Token} (frames : List Frame) (acc : List Json) :
    ∀ items : List Json, (∀ item ∈ items, item.DistinctKeys) →
      run ⟨.array acc :: frames, .separator, none⟩ (itemTokens items ++ ([.closeArray] ++ ts)) =
        run (put frames (.array (acc.reverse ++ items))) ts
  | [], _ => by
    rw [List.append_nil]
    exact run_cons rfl
  | item :: items, hitems => by
    have hparts := List.forall_mem_cons.mp hitems
    rw [itemTokens, List.cons_append, List.append_assoc]
    calc run ⟨.array acc :: frames, .separator, none⟩ _
      _ = run ⟨.array acc :: frames, .value, none⟩ _ := run_cons rfl
      _ = run ⟨.array (item :: acc) :: frames, .separator, none⟩ _ :=
        run_tokenList _ item hparts.1
      _ = run (put frames (.array ((item :: acc).reverse ++ items))) ts :=
        run_itemTokens frames (item :: acc) items hparts.2
      _ = run (put frames (.array (acc.reverse ++ item :: items))) ts := by
        rw [List.reverse_cons, List.append_assoc, List.singleton_append]

theorem run_memberTokens {ts : List Token} (frames : List Frame) (acc : List (String × Json))
    (last : String) :
    ∀ members : List (String × Json), ((acc ++ members).map (·.1)).Nodup →
      (∀ entry ∈ members, entry.2.DistinctKeys) →
      run ⟨.object acc last :: frames, .separator, none⟩
          (memberTokens members ++ ([.closeObject] ++ ts)) =
        run (put frames (.object (acc ++ members))) ts
  | [], _, _ => by
    rw [List.append_nil]
    exact run_cons rfl
  | (key, value) :: members, hkeys, hmembers => by
    have hparts := List.forall_mem_cons.mp hmembers
    have hnew : key ∉ acc.map (·.1) := by
      rw [List.map_append, List.map_cons, List.nodup_append] at hkeys
      exact fun h => hkeys.2.2 key h key (List.mem_cons_self ..) rfl
    have hput : put (.object acc key :: frames) value =
        ⟨.object (acc ++ [(key, value)]) key :: frames, .separator, none⟩ := by
      rw [put, insertMember_of_notMem value hnew]
    rw [List.append_cons] at hkeys
    rw [memberTokens, List.cons_append, List.cons_append, List.cons_append, List.append_assoc]
    calc run ⟨.object acc last :: frames, .separator, none⟩ _
      _ = run ⟨.object acc last :: frames, .key, none⟩ _ := run_cons rfl
      _ = run ⟨.object acc key :: frames, .colon, none⟩ _ := run_cons rfl
      _ = run ⟨.object acc key :: frames, .value, none⟩ _ := run_cons rfl
      _ = run (put (.object acc key :: frames) value) _ := run_tokenList _ value hparts.1
      _ = run ⟨.object (acc ++ [(key, value)]) key :: frames, .separator, none⟩ _ := by rw [hput]
      _ = run (put frames (.object (acc ++ [(key, value)] ++ members))) ts :=
        run_memberTokens frames (acc ++ [(key, value)]) key members hkeys hparts.2
      _ = run (put frames (.object (acc ++ (key, value) :: members))) ts := by
        rw [← List.append_cons]

end

/-- **What is written over several lines is read back.** -/
theorem read?_pretty {v : Json} (hkeys : v.DistinctKeys) (hnumbers : v.NumberFree) :
    read? v.pretty = some v := by
  have hrun : Reading.run ⟨[], .value, none⟩ (v.tokenList ++ []) = some (Reading.put [] v) :=
    run_tokenList [] v hkeys
  rw [List.append_nil] at hrun
  simp only [read?, tokens?_pretty hnumbers, Option.bind_eq_bind, Option.bind_some,
    Reading.start, hrun]
  rfl

end FilterQuery.Json
