import SsP2p.Core.Bson

/-!
# The reader of BSON

The rounds of the element list are always enough, so the reader of a list meets the
equations of the recursion in the source.  Every part of the reader is steady but
the boolean element, which takes the end of the input for `true`; the list around it
then finds the input at its end.
-/

namespace SsP2p.Bson

open Reader

theorem steady_getBytes (length : ℕ) : (getBytes length).Steady := by
  intro input value rest hread
  rw [getBytes] at hread
  split at hread
  · rename_i henough
    obtain ⟨rfl, rfl⟩ := Prod.mk.inj (Except.ok.inj hread)
    refine ⟨by rw [List.length_drop]; omega, fun more => ?_⟩
    have hmore : length ≤ (input ++ more).length := by
      rw [List.length_append]
      omega
    rw [getBytes, if_pos hmore, List.take_append_of_le_length henough,
      List.drop_append_of_le_length henough]
  · cases hread

theorem steady_getNumber (width : ℕ) : (getNumber width).Steady :=
  (steady_getBytes width).andThen fun _ => steady_done _

theorem steady_getInt (width : ℕ) : (getInt width).Steady :=
  (steady_getNumber width).andThen fun _ => steady_done _

theorem steady_getBsonCstr : getBsonCstr.Steady := by
  intro input
  induction input with
  | nil =>
      intro value rest hread
      cases hread
  | cons byte input ih =>
      intro value rest hread
      rw [getBsonCstr] at hread
      by_cases hend : byte = 0
      · rw [if_pos hend] at hread
        obtain ⟨rfl, rfl⟩ := Prod.mk.inj (Except.ok.inj hread)
        exact ⟨by simp, fun more => by rw [List.cons_append, getBsonCstr, if_pos hend]⟩
      · rw [if_neg hend, Fallible.bind_eq_ok] at hread
        obtain ⟨⟨result, left⟩, hresult, hread⟩ := hread
        obtain ⟨rfl, rfl⟩ := Prod.mk.inj (Except.ok.inj hread)
        obtain ⟨hlength, hmore⟩ := ih hresult
        refine ⟨Nat.le_succ_of_le hlength, fun more => ?_⟩
        rw [List.cons_append, getBsonCstr, if_neg hend, hmore more]
        rfl

theorem steady_skipTerminator : skipTerminator.Steady := by
  intro input value rest hread
  cases input with
  | nil => cases hread
  | cons byte input =>
      cases hread
      exact ⟨Nat.le_succ _, fun _ => rfl⟩

theorem steady_getBsonString (len : ℤ) : (getBsonString len).Steady := by
  rw [getBsonString]
  split
  · exact steady_stop _
  · exact (steady_getBytes _).andThen fun _ =>
      steady_skipTerminator.andThen fun _ => steady_done _

theorem steady_getBsonBinary (len : ℤ) : (getBsonBinary len).Steady := by
  rw [getBsonBinary]
  split
  · exact steady_stop _
  · exact (steady_getNumber 1).andThen fun _ =>
      (steady_getBytes _).andThen fun _ => steady_done _

theorem nearlySteady_getBoolean : getBoolean.NearlySteady := by
  intro input value rest hread
  cases input with
  | nil =>
      cases hread
      exact ⟨Nat.le_refl _, fun hrest => (hrest rfl).elim⟩
  | cons byte input =>
      cases hread
      exact ⟨Nat.le_succ _, fun _ _ => rfl⟩

section Documents

variable {parse parse' : ByteReader (List (String × Json))}

theorem steady_parseBsonInternal (hparse : parse.Steady) : (parseBsonInternal parse).Steady :=
  (steady_getInt 4).andThen fun _ => hparse.andThen fun _ => steady_done _

theorem steady_parseBsonArray (hparse : parse.Steady) : (parseBsonArray parse).Steady :=
  (steady_getInt 4).andThen fun _ => hparse.andThen fun _ => steady_done _

theorem nearlySteady_parseBsonElementInternal (hparse : parse.Steady) (elementType : UInt8) :
    (parseBsonElementInternal parse elementType).NearlySteady := by
  rw [parseBsonElementInternal]
  split
  · exact ((steady_getNumber 8).andThen fun _ => steady_done _).nearly
  · exact ((steady_getInt 4).andThen fun len =>
      (steady_getBsonString len).andThen fun _ => steady_done _).nearly
  · exact (steady_parseBsonInternal hparse).nearly
  · exact (steady_parseBsonArray hparse).nearly
  · exact ((steady_getInt 4).andThen steady_getBsonBinary).nearly
  · exact nearlySteady_getBoolean.andThen fun _ => (steady_done _).nearly
  · exact (steady_done _).nearly
  · exact ((steady_getInt 4).andThen fun _ => steady_done _).nearly
  · exact ((steady_getInt 8).andThen fun _ => steady_done _).nearly
  · exact (steady_stop _).nearly

theorem parseBsonElementInternal_double : parseBsonElementInternal parse 0x01 =
    (getNumber 8).andThen fun bits => .done (.float (UInt64.ofNat bits)) := rfl

theorem parseBsonElementInternal_string : parseBsonElementInternal parse 0x02 =
    (getInt 4).andThen fun len =>
      (getBsonString len).andThen fun text => .done (.string text) := rfl

theorem parseBsonElementInternal_object : parseBsonElementInternal parse 0x03 =
    parseBsonInternal parse := rfl

theorem parseBsonElementInternal_array : parseBsonElementInternal parse 0x04 =
    parseBsonArray parse := rfl

theorem parseBsonElementInternal_binary : parseBsonElementInternal parse 0x05 =
    (getInt 4).andThen getBsonBinary := rfl

theorem parseBsonElementInternal_int32 : parseBsonElementInternal parse 0x10 =
    (getInt 4).andThen fun value => .done (.integer value) := rfl

theorem parseBsonElementInternal_int64 : parseBsonElementInternal parse 0x12 =
    (getInt 8).andThen fun value => .done (.integer value) := rfl

/-- An element is read alike by two readers of element lists that agree on all inputs no
longer than its own. -/
theorem parseBsonElementInternal_congr {input : List UInt8}
    (hagree : ∀ rest : List UInt8, rest.length ≤ input.length → parse rest = parse' rest)
    (elementType : UInt8) :
    parseBsonElementInternal parse elementType input =
      parseBsonElementInternal parse' elementType input := by
  fun_cases parseBsonElementInternal parse elementType
  case case10 hother => simp [parseBsonElementInternal]
  all_goals
    rename_i hcode
    rw [parseBsonElementInternal, hcode]
  case case3 =>
    refine (steady_getInt 4).nearly.andThen_congr fun _ rest hrest => ?_
    rw [andThen, andThen, hagree rest hrest]
  case case4 =>
    refine (steady_getInt 4).nearly.andThen_congr fun _ rest hrest => ?_
    rw [andThen, andThen, hagree rest hrest]
  all_goals rfl

end Documents

theorem isOk_parseRounds_nil (rounds : ℕ) : (parseRounds rounds []).isOk = false := by
  cases rounds <;> rfl

theorem steady_parseRounds (rounds : ℕ) : (parseRounds rounds).Steady := by
  induction rounds with
  | zero =>
      intro input value rest hread
      cases hread
  | succ rounds ih =>
      intro input value rest hread
      cases input with
      | nil => cases hread
      | cons elementType input =>
          rw [parseRounds] at hread
          by_cases hend : elementType = 0
          · rw [if_pos hend] at hread
            obtain ⟨rfl, rfl⟩ := Prod.mk.inj (Except.ok.inj hread)
            refine ⟨Nat.le_succ _, fun more => ?_⟩
            rw [List.cons_append, parseRounds, if_pos hend]
          · have hround := steady_getBsonCstr.andThen fun key =>
              (nearlySteady_parseBsonElementInternal ih elementType).andThen_steady
                (fun value => ih.andThen fun elements =>
                  steady_done ((stringOf key, value) :: elements))
                fun value => ?_
            · rw [if_neg hend] at hread
              obtain ⟨hlength, hmore⟩ := hround hread
              refine ⟨Nat.le_succ_of_le hlength, fun more => ?_⟩
              rw [List.cons_append, parseRounds, if_neg hend]
              exact hmore more
            · have hfails := isOk_parseRounds_nil rounds
              rw [andThen]
              cases hread : parseRounds rounds [] with
              | error stop => rfl
              | ok read =>
                  rw [hread] at hfails
                  cases hfails

/-! ## The recursion without rounds -/

/-- Rounds beyond the length of the input change nothing. -/
theorem parseRounds_eq_of_le {bound rounds rounds' : ℕ} (hrounds : bound ≤ rounds)
    (hrounds' : bound ≤ rounds') {input : List UInt8} (hinput : input.length ≤ bound) :
    parseRounds rounds input = parseRounds rounds' input := by
  induction bound generalizing rounds rounds' input with
  | zero =>
      rw [List.eq_nil_of_length_eq_zero (Nat.le_zero.mp hinput)]
      cases rounds <;> cases rounds' <;> rfl
  | succ bound ih =>
      obtain ⟨rounds, rfl⟩ := Nat.exists_eq_add_of_le' hrounds
      obtain ⟨rounds', rfl⟩ := Nat.exists_eq_add_of_le' hrounds'
      cases input with
      | nil => rfl
      | cons elementType input =>
          have hinput : input.length ≤ bound := Nat.le_of_succ_le_succ hinput
          have hagree : ∀ rest : List UInt8, rest.length ≤ bound →
              parseRounds (rounds + bound) rest = parseRounds (rounds' + bound) rest :=
            fun rest hrest => ih (Nat.le_add_left _ _) (Nat.le_add_left _ _) hrest
          rw [← Nat.add_assoc, ← Nat.add_assoc, parseRounds, parseRounds]
          split
          · rfl
          · refine steady_getBsonCstr.nearly.andThen_congr fun key rest hrest => ?_
            have hrest := hrest.trans hinput
            have helement := nearlySteady_parseBsonElementInternal
              (steady_parseRounds (rounds + bound)) elementType
            rw [helement.andThen_congr fun value rest' hrest' => by
              rw [andThen, hagree rest' (hrest'.trans hrest)]]
            rw [andThen, andThen, parseBsonElementInternal_congr fun rest' hrest' =>
              hagree rest' (hrest'.trans hrest)]
            rfl

theorem parseBsonElementList_eq {rounds : ℕ} {input : List UInt8}
    (hrounds : input.length ≤ rounds) :
    parseBsonElementList input = parseRounds rounds input :=
  parseRounds_eq_of_le (Nat.le_refl _) hrounds (Nat.le_refl _)

theorem steady_parseBsonElementList : parseBsonElementList.Steady := by
  intro input value rest hread
  have hread : parseRounds input.length input = .ok (value, rest) := hread
  obtain ⟨hlength, -⟩ := steady_parseRounds _ hread
  refine ⟨hlength, fun more => ?_⟩
  have hrounds : input.length ≤ (input ++ more).length := by
    rw [List.length_append]
    omega
  rw [← parseBsonElementList, parseBsonElementList_eq hrounds] at hread
  exact (steady_parseRounds _ hread).2 more

@[simp]
theorem parseBsonElementList_zero (input : List UInt8) :
    parseBsonElementList (0 :: input) = .ok ([], input) := rfl

/-- The rest of an element list behind the type byte of an element. -/
def parseBsonElement (elementType : UInt8) : ByteReader (List (String × Json)) :=
  getBsonCstr.andThen fun key =>
    (parseBsonElementInternal parseBsonElementList elementType).andThen fun value =>
      parseBsonElementList.andThen fun elements =>
        .done ((stringOf key, value) :: elements)

/-- The loop of the source. -/
theorem parseBsonElementList_cons {elementType : UInt8} (htype : elementType ≠ 0)
    (input : List UInt8) :
    parseBsonElementList (elementType :: input) = parseBsonElement elementType input := by
  change parseRounds (input.length + 1) (elementType :: input) = _
  rw [parseRounds, if_neg htype, parseBsonElement]
  refine steady_getBsonCstr.nearly.andThen_congr fun key rest hrest => ?_
  have helement := nearlySteady_parseBsonElementInternal
    (steady_parseRounds input.length) elementType
  rw [helement.andThen_congr fun value rest' hrest' => by
    rw [andThen, ← parseBsonElementList_eq (hrest'.trans hrest)]]
  rw [andThen, andThen, parseBsonElementInternal_congr fun rest' hrest' =>
    (parseBsonElementList_eq (hrest'.trans hrest)).symm]
  rfl

/-- `from_bson` returns a document that takes up all its input. -/
theorem fromBson_eq_ok {bytes : List UInt8} {document : Json} :
    fromBson bytes = .ok document ↔
      parseBsonInternal parseBsonElementList bytes = .ok (document, []) := by
  rw [fromBson]
  cases parseBsonInternal parseBsonElementList bytes with
  | error stop => simp
  | ok read =>
      obtain ⟨value, rest⟩ := read
      rw [Fallible.ok_bind]
      by_cases hrest : rest = []
      · simp [hrest, Fallible.pure_eq_ok]
      · simp [hrest]

end SsP2p.Bson
