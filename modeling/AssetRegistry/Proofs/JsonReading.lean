import AssetRegistry.Json.Codec
import AssetRegistry.Proofs.JsonTokens
import Mathlib.Data.List.Forall2

/-!
# Reading what was written

A decoder `Takes` a JSON value where it reads the tokens of that value off the front of any
others.  What a compound decoder takes follows from what its parts take: a list from its
items, and an object from a state that goes over its members one by one (`Passes`).  A value
of any shape is taken as it is if there is room for its brackets (`takes_value`), and it is
passed over where nobody wants it (`skip_toTokens_append`).
-/

namespace AssetRegistry.Json

/-- The decoder reads the value off the front of the tokens, and nothing after it. -/
def Decoder.Takes (decode : Decoder α) (room : Nat) (j : Json) (a : α) : Prop :=
  ∀ rest, decode room (j.toTokens ++ rest) = .ok (a, rest)

variable {α σ : Type} {room steps : Nat} {j : Json}

/-- A value is read back from its text. -/
theorem Codec.ofText_text {codec : Codec α} {a b : α}
    (takes : codec.decode.Takes maxDepth (codec.encode a) b) :
    codec.ofText (codec.text a) = .ok b := by
  have read := takes []
  rw [List.append_nil] at read
  rw [ofText, decodeWhole, Codec.text, tokens_text, read]
  rfl

/-- A value that is taken with room for all brackets is read when it comes alone. -/
theorem Codec.ofJson_eq_ok {codec : Codec α} {a : α} (takes : codec.decode.Takes maxDepth j a) :
    codec.ofJson j = .ok a := by
  have read := takes []
  rw [List.append_nil] at read
  rw [ofJson, read]
  rfl

/-! ### Tokens of values -/

/-- Whether a value starts with the token. -/
def Token.startsValue : Token → Bool
  | null | bool _ | number _ | string _ | bracketOpen | braceOpen => true
  | _ => false

/-- Every value has a first token, and it starts a value. -/
theorem exists_toTokens_eq_cons (j : Json) : ∃ t ts, j.toTokens = t :: ts ∧ t.startsValue := by
  cases j <;> exact ⟨_, _, rfl, rfl⟩

/-- Items follow on the first one, each after a comma. -/
theorem itemTokens_cons (item : Json) (items : List Json) :
    itemTokens (item :: items) = item.toTokens ++ items.flatMap (.comma :: toTokens ·) := by
  induction items generalizing item with
  | nil => rw [itemTokens, List.flatMap_nil, List.append_nil]
  | cons next items ih => simp [itemTokens, ih]

/-- The tokens of a member. -/
def tokensOfMember (m : String × Json) : List Token :=
  .string m.1 :: .colon :: m.2.toTokens

/-- Members follow on the first one, each after a comma. -/
theorem memberTokens_cons (m : String × Json) (members : List (String × Json)) :
    memberTokens (m :: members) =
      tokensOfMember m ++ members.flatMap (.comma :: tokensOfMember ·) := by
  induction members generalizing m with
  | nil => rw [memberTokens, List.flatMap_nil, List.append_nil, tokensOfMember]
  | cons next members ih => simp [memberTokens, ih, tokensOfMember]

/-- A value has a token at least. -/
theorem length_le_length_flatMap (tokensOf : ρ → List Token) (rows : List ρ) :
    rows.length ≤ (rows.flatMap (.comma :: tokensOf ·)).length := by
  induction rows with
  | nil => simp
  | cons row rows ih => simp only [List.flatMap_cons, List.length_append, List.length_cons]; omega

/-! ### Arrays -/

section Arrays

variable {decode : Decoder α} {js : List Json} {as : List α}

/-- Where a value starts, an item comes next: at once if it is the first, else after a comma. -/
theorem nextItem_of_startsValue {t : Token} (starts : t.startsValue) (ts : List Token) :
    nextItem true (t :: ts) = .ok (some (t :: ts)) ∧
      nextItem false (.comma :: t :: ts) = .ok (some (t :: ts)) := by
  cases t <;> first | exact ⟨rfl, rfl⟩ | simp [Token.startsValue] at starts

/-- Items are read one by one. -/
theorem items_cons {first : Bool} {ts ts₁ ts₂ ts₃ : List Token} {a : α}
    (next : nextItem first ts = .ok (some ts₁)) (head : decode room ts₁ = .ok (a, ts₂))
    (tail : items decode room steps false ts₂ = .ok (as, ts₃)) :
    items decode room (steps + 1) first ts = .ok (a :: as, ts₃) := by
  simp [items, next, head, tail, bind, Except.bind, pure, Except.pure]

/-- The items after a first one are read up to the closing bracket. -/
theorem items_tail (taken : List.Forall₂ (decode.Takes room) js as) (enough : js.length < steps)
    (rest : List Token) :
    items decode room steps false (js.flatMap (.comma :: toTokens ·) ++ .bracketClose :: rest) =
      .ok (as, .bracketClose :: rest) := by
  induction taken generalizing steps with
  | nil =>
    obtain ⟨steps, rfl⟩ := Nat.exists_eq_succ_of_ne_zero (Nat.ne_zero_of_lt enough)
    rfl
  | @cons j a js as head _ ih =>
    obtain ⟨steps, rfl⟩ := Nat.exists_eq_succ_of_ne_zero (Nat.ne_zero_of_lt enough)
    obtain ⟨t, ts, first, starts⟩ := exists_toTokens_eq_cons j
    -- The comma is passed, and what follows it starts a value.
    refine items_cons ?_ (head _) (ih (Nat.lt_of_succ_lt_succ enough))
    rw [List.flatMap_cons, List.append_assoc, first]
    exact (nextItem_of_startsValue starts _).2

/-- There is at most one item more than tokens, as commas stand between items. -/
theorem length_le_length_itemTokens (js : List Json) : js.length ≤ (itemTokens js).length + 1 := by
  cases js with
  | nil => simp
  | cons j js =>
    have tail := length_le_length_flatMap toTokens js
    simp only [itemTokens_cons, List.length_append, List.length_cons]
    omega

/-- As many steps as there are tokens are enough for the items. -/
theorem items_itemTokens (taken : List.Forall₂ (decode.Takes room) js as) (rest : List Token) :
    items decode room ((itemTokens js ++ .bracketClose :: rest).length + 1) true
        (itemTokens js ++ .bracketClose :: rest) =
      .ok (as, .bracketClose :: rest) := by
  -- Every item has a token at least, so that the steps last.
  have enough : js.length ≤ (itemTokens js ++ .bracketClose :: rest).length := by
    have fewer := length_le_length_itemTokens js
    simp only [List.length_append, List.length_cons]
    omega
  generalize (itemTokens js ++ .bracketClose :: rest).length = steps at enough
  cases taken with
  | nil => rfl
  | @cons j a js as head tail =>
    obtain ⟨t, ts, first, starts⟩ := exists_toTokens_eq_cons j
    rw [itemTokens_cons, List.append_assoc]
    refine items_cons ?_ (head _) (items_tail tail enough rest)
    rw [first]
    exact (nextItem_of_startsValue starts _).1

/-- A list is taken where each of its items is. -/
theorem takes_list (taken : List.Forall₂ (decode.Takes room) js as) :
    (Decoder.list decode).Takes (room + 1) (.array js) as := by
  intro rest
  have read := items_itemTokens taken rest
  rw [toTokens, List.cons_append, List.append_assoc, List.singleton_append]
  simp only [Decoder.list, enter, bind, Except.bind, read]
  rfl

end Arrays

/-! ### Objects -/

/-- A state comes to another one over the members of an object. -/
inductive Passes (member : String → σ → Decoder σ) (room : Nat) :
    List (String × Json) → σ → σ → Prop where
  | nil {s : σ} : Passes member room [] s s
  | cons {m : String × Json} {ms : List (String × Json)} {s s₁ s' : σ}
      (first : ∀ rest, member m.1 s room (.colon :: (m.2.toTokens ++ rest)) = .ok (s₁, rest))
      (others : Passes member room ms s₁ s') : Passes member room (m :: ms) s s'

section Objects

variable {member : String → σ → Decoder σ} {ms ms' : List (String × Json)} {s s₁ s' : σ}

/-- Members that are passed one after the other are passed together. -/
theorem Passes.append (before : Passes member room ms s s₁) (after : Passes member room ms' s₁ s') :
    Passes member room (ms ++ ms') s s' := by
  induction before with
  | nil => exact after
  | cons first _ ih => exact .cons first (ih after)

/-- A state that collects members has all of them in the end. -/
theorem Passes.collect {member : String → List (String × Json) → Decoder (List (String × Json))}
    (each : ∀ m ∈ ms, ∀ earlier rest,
      member m.1 earlier room (.colon :: (m.2.toTokens ++ rest)) = .ok (earlier ++ [m], rest))
    (earlier : List (String × Json)) : Passes member room ms earlier (earlier ++ ms) := by
  induction ms generalizing earlier with
  | nil => rw [List.append_nil]; exact .nil
  | cons m ms ih =>
    refine .cons (each m List.mem_cons_self earlier) ?_
    have others := ih (fun m' member => each m' (List.mem_cons_of_mem m member)) (earlier ++ [m])
    rwa [List.append_assoc] at others

/-- Members are read one by one. -/
theorem members_cons {first : Bool} {key : String} {ts ts₁ ts₂ ts₃ : List Token}
    (next : nextKey first ts = .ok (some (key, ts₁))) (head : member key s room ts₁ = .ok (s₁, ts₂))
    (tail : members member room steps false s₁ ts₂ = .ok (s', ts₃)) :
    members member room (steps + 1) first s ts = .ok (s', ts₃) := by
  simp [members, next, head, tail, bind, Except.bind]

/-- The members after a first one are read up to the closing brace. -/
theorem members_tail (passes : Passes member room ms s s') (enough : ms.length < steps)
    (rest : List Token) :
    members member room steps false s
        (ms.flatMap (.comma :: tokensOfMember ·) ++ .braceClose :: rest) =
      .ok (s', .braceClose :: rest) := by
  induction passes generalizing steps with
  | nil =>
    obtain ⟨steps, rfl⟩ := Nat.exists_eq_succ_of_ne_zero (Nat.ne_zero_of_lt enough)
    rfl
  | cons first _ ih =>
    obtain ⟨steps, rfl⟩ := Nat.exists_eq_succ_of_ne_zero (Nat.ne_zero_of_lt enough)
    rw [List.flatMap_cons, List.append_assoc]
    exact members_cons rfl (first _) (ih (Nat.lt_of_succ_lt_succ enough))

/-- There is at most one member more than tokens, as commas stand between members. -/
theorem length_le_length_memberTokens (ms : List (String × Json)) :
    ms.length ≤ (memberTokens ms).length + 1 := by
  cases ms with
  | nil => simp
  | cons m ms =>
    have tail := length_le_length_flatMap tokensOfMember ms
    simp only [memberTokens_cons, List.length_append, List.length_cons]
    omega

/-- As many steps as there are tokens are enough for the members. -/
theorem members_memberTokens (passes : Passes member room ms s s') (rest : List Token) :
    members member room ((memberTokens ms ++ .braceClose :: rest).length + 1) true s
        (memberTokens ms ++ .braceClose :: rest) =
      .ok (s', .braceClose :: rest) := by
  -- Every member has a token at least, so that the steps last.
  have enough : ms.length ≤ (memberTokens ms ++ .braceClose :: rest).length := by
    have fewer := length_le_length_memberTokens ms
    simp only [List.length_append, List.length_cons]
    omega
  generalize (memberTokens ms ++ .braceClose :: rest).length = steps at enough
  cases passes with
  | nil => rfl
  | cons first others =>
    rw [memberTokens_cons, List.append_assoc]
    exact members_cons rfl (first _) (members_tail others enough rest)

end Objects

/-! ### Any value -/

/-- What holds of a value if it holds of its parts holds of all values. -/
theorem induction {motive : Json → Prop} (null : motive .null) (bool : ∀ b, motive (.bool b))
    (number : ∀ n, motive (.number n)) (string : ∀ s, motive (.string s))
    (array : ∀ items, (∀ j ∈ items, motive j) → motive (.array items))
    (object : ∀ members, (∀ m ∈ members, motive m.2) → motive (.object members)) (j : Json) :
    motive j := by
  cases j with
  | null => exact null
  | bool b => exact bool b
  | number n => exact number n
  | string s => exact string s
  | array items =>
    exact array items fun j _ => induction null bool number string array object j
  | object members =>
    exact object members fun m _ => induction null bool number string array object m.2
termination_by sizeOf j
decreasing_by
  · have := List.sizeOf_lt_of_mem ‹j ∈ items›
    simp
    omega
  · have := List.sizeOf_lt_of_mem ‹m ∈ members›
    have : sizeOf m = 1 + sizeOf m.1 + sizeOf m.2 := by cases m; simp
    simp
    omega

mutual

/-- How deep brackets are nested. -/
def depth : Json → Nat
  | .array items => itemsDepth items + 1
  | .object members => membersDepth members + 1
  | _ => 0

/-- How deep they are nested in items. -/
def itemsDepth : List Json → Nat
  | [] => 0
  | item :: items => max item.depth (itemsDepth items)

/-- How deep they are nested in members. -/
def membersDepth : List (String × Json) → Nat
  | [] => 0
  | (_, value) :: members => max value.depth (membersDepth members)

end

/-- No item is deeper than all items together. -/
theorem depth_le_itemsDepth {items : List Json} (member : j ∈ items) :
    j.depth ≤ itemsDepth items := by
  induction items with
  | nil => simp at member
  | cons item items ih =>
    rw [itemsDepth]
    rcases List.mem_cons.1 member with rfl | member
    · exact Nat.le_max_left _ _
    · exact Nat.le_trans (ih member) (Nat.le_max_right _ _)

/-- No member is deeper than all members together. -/
theorem depth_le_membersDepth {members : List (String × Json)} {m : String × Json}
    (member : m ∈ members) : m.2.depth ≤ membersDepth members := by
  induction members with
  | nil => simp at member
  | cons m' members ih =>
    rw [membersDepth]
    rcases List.mem_cons.1 member with rfl | member
    · exact Nat.le_max_left _ _
    · exact Nat.le_trans (ih member) (Nat.le_max_right _ _)

/-- Items are together as deep as the deepest of them. -/
theorem itemsDepth_le {items : List Json} (each : ∀ j ∈ items, j.depth ≤ room) :
    itemsDepth items ≤ room := by
  induction items with
  | nil => exact Nat.zero_le room
  | cons item items ih =>
    rw [itemsDepth]
    have others := ih fun j member => each j (List.mem_cons_of_mem item member)
    exact Nat.max_le.2 ⟨each item List.mem_cons_self, others⟩

/-- Members in a row are together as deep as the deeper part. -/
theorem membersDepth_append (members members' : List (String × Json)) :
    membersDepth (members ++ members') = max (membersDepth members) (membersDepth members') := by
  induction members with
  | nil => simp [membersDepth]
  | cons m members ih => rw [List.cons_append, membersDepth, membersDepth, ih, Nat.max_assoc]

/-- Arrays and objects are not nested deeper than there is room, and no number overflows
    double arithmetic. -/
inductive Fits : Nat → Json → Prop where
  | null {room : Nat} : Fits room .null
  | bool {room : Nat} {b : Bool} : Fits room (.bool b)
  | number {room : Nat} {n : Number} (finite : n.isFinite) : Fits room (.number n)
  | string {room : Nat} {s : String} : Fits room (.string s)
  | array {room : Nat} {items : List Json} (each : ∀ j ∈ items, Fits room j) :
    Fits (room + 1) (.array items)
  | object {room : Nat} {members : List (String × Json)} (each : ∀ m ∈ members, Fits room m.2) :
    Fits (room + 1) (.object members)

/-- An array fits where its items do one level further in. -/
theorem Fits.array_of_depth_le {items : List Json} (shallow : (Json.array items).depth ≤ room)
    (each : ∀ j ∈ items, ∀ room, j.depth ≤ room → Fits room j) : Fits room (.array items) := by
  rw [depth] at shallow
  obtain ⟨room, rfl⟩ := Nat.exists_eq_add_of_le' (Nat.le_trans (Nat.le_add_left 1 _) shallow)
  refine .array fun j member => each j member room ?_
  exact Nat.le_trans (depth_le_itemsDepth member) (Nat.le_of_succ_le_succ shallow)

/-- An object fits where its members do one level further in. -/
theorem Fits.object_of_depth_le {members : List (String × Json)}
    (shallow : (Json.object members).depth ≤ room)
    (each : ∀ m ∈ members, ∀ room, m.2.depth ≤ room → Fits room m.2) :
    Fits room (.object members) := by
  rw [depth] at shallow
  obtain ⟨room, rfl⟩ := Nat.exists_eq_add_of_le' (Nat.le_trans (Nat.le_add_left 1 _) shallow)
  refine .object fun m member => each m member room ?_
  exact Nat.le_trans (depth_le_membersDepth member) (Nat.le_of_succ_le_succ shallow)

/-- A value that fits is read as it is. -/
theorem takes_valueWithin (fits : Fits room j) (enough : room ≤ steps) :
    (valueWithin (steps + 1)).Takes room j j := by
  induction fits generalizing steps with
  | null | bool | string => exact fun rest => rfl
  | number finite => exact fun rest => if_pos finite
  -- Inside a bracket there is room for one level less, and one step less is left.
  | @array room js _ ih =>
    obtain ⟨steps, rfl⟩ := Nat.exists_eq_add_of_le' (Nat.le_trans (Nat.le_add_left 1 room) enough)
    have taken : List.Forall₂ ((valueWithin (steps + 1)).Takes room) js js :=
      List.forall₂_same.2 fun j member => ih j member (Nat.le_of_succ_le_succ enough)
    intro rest
    rw [toTokens, List.cons_append, List.append_assoc, List.singleton_append, valueWithin]
    simp only [enter, bind, Except.bind, items_itemTokens taken rest]
    rfl
  | @object room ms _ ih =>
    obtain ⟨steps, rfl⟩ := Nat.exists_eq_add_of_le' (Nat.le_trans (Nat.le_add_left 1 room) enough)
    intro rest
    rw [toTokens, List.cons_append, List.append_assoc, List.singleton_append, valueWithin]
    simp only [enter, bind, Except.bind]
    rw [members_memberTokens (Passes.collect (fun m member earlier rest => ?_) [])]
    · rfl
    · have read := ih m member (Nat.le_of_succ_le_succ enough) rest
      simp only [expect, if_true, read]
      rfl

/-- A value that fits is taken as it is. -/
theorem takes_value (fits : Fits room j) : Decoder.Takes value room j j :=
  takes_valueWithin fits (Nat.le_refl room)

/-! ### Values that nobody wants -/

/-- What comes after a value inside brackets. -/
def closing (unclosed : List Bool) (ts : List Token) : Except Fault (List Token) :=
  if unclosed.isEmpty then .ok ts else skipFrom .separator unclosed ts

section Skipping

variable {outer : List Bool}

/-- An array that is not empty goes on with a value. -/
theorem skipFrom_itemOrEnd {t : Token} (starts : t.startsValue) (ts : List Token) :
    skipFrom .itemOrEnd outer (t :: ts) = skipFrom .value outer (t :: ts) := by
  cases t <;> first | rfl | simp [Token.startsValue] at starts

/-- Items are skipped up to the bracket that closes them. -/
theorem skipFrom_items {js : List Json}
    (each : ∀ j ∈ js, ∀ unclosed rest,
      skipFrom .value unclosed (j.toTokens ++ rest) = closing unclosed rest) (rest : List Token) :
    skipFrom .separator (false :: outer)
        (js.flatMap (.comma :: toTokens ·) ++ .bracketClose :: rest) = closing outer rest := by
  induction js with
  | nil => rfl
  | cons j js ih =>
    rw [List.flatMap_cons, List.append_assoc]
    show skipFrom .value (false :: outer) (j.toTokens ++ _) = _
    rw [each j List.mem_cons_self]
    exact ih fun j' member => each j' (List.mem_cons_of_mem j member)

/-- Members are skipped up to the brace that closes them. -/
theorem skipFrom_members {ms : List (String × Json)}
    (each : ∀ m ∈ ms, ∀ unclosed rest,
      skipFrom .value unclosed (m.2.toTokens ++ rest) = closing unclosed rest) (rest : List Token) :
    skipFrom .separator (true :: outer)
        (ms.flatMap (.comma :: tokensOfMember ·) ++ .braceClose :: rest) = closing outer rest := by
  induction ms with
  | nil => rfl
  | cons m ms ih =>
    rw [List.flatMap_cons, List.append_assoc]
    show skipFrom .value (true :: outer) (m.2.toTokens ++ _) = _
    rw [each m List.mem_cons_self]
    exact ih fun m' member => each m' (List.mem_cons_of_mem m member)

/-- A value is passed over whatever is around it. -/
theorem skipFrom_value (j : Json) : ∀ unclosed rest,
    skipFrom .value unclosed (j.toTokens ++ rest) = closing unclosed rest := by
  induction j using induction with
  | null | bool | number | string => exact fun unclosed rest => rfl
  -- Only the innermost bracket matters for what may come next.
  | array js ih =>
    intro unclosed rest
    rw [toTokens, List.cons_append, List.append_assoc, List.singleton_append]
    show skipFrom .itemOrEnd (false :: unclosed) _ = _
    cases js with
    | nil => rfl
    | cons j js =>
      obtain ⟨t, ts, first, starts⟩ := exists_toTokens_eq_cons j
      rw [itemTokens_cons, List.append_assoc, first, List.cons_append, skipFrom_itemOrEnd starts,
        ← List.cons_append, ← first, ih j List.mem_cons_self]
      exact skipFrom_items (fun j' member => ih j' (List.mem_cons_of_mem j member)) rest
  | object ms ih =>
    intro unclosed rest
    rw [toTokens, List.cons_append, List.append_assoc, List.singleton_append]
    show skipFrom .keyOrEnd (true :: unclosed) _ = _
    cases ms with
    | nil => rfl
    | cons m ms =>
      rw [memberTokens_cons, List.append_assoc]
      show skipFrom .value (true :: unclosed) (m.2.toTokens ++ _) = _
      rw [ih m List.mem_cons_self]
      exact skipFrom_members (fun m' member => ih m' (List.mem_cons_of_mem m member)) rest

/-- A value is passed over as a whole. -/
theorem skip_toTokens_append (j : Json) (rest : List Token) :
    skip (j.toTokens ++ rest) = .ok rest :=
  skipFrom_value j [] rest

end Skipping

end AssetRegistry.Json
