import AssetRegistry.Json.Record
import AssetRegistry.Proofs.JsonReading

/-!
# Reading records that were written

A record is read back where its fields are.  The values that are met so far grow from the
left, one field for each member (`Fields.passes_encode`), so the order of the members is the
order of the fields.  Members that are no fields change nothing, and so an object with more
members than those of a record is read as the record all the same (`takes_record`).
-/

namespace AssetRegistry.Json

namespace Fields

/-- The names of the fields in order. -/
def names : Fields τ σ → List String
  | .nil => []
  | .cons field rest => field.name :: rest.names

/-- The values met where every field was. -/
def met : Fields τ σ → τ → σ
  | .nil, _ => ()
  | .cons _ rest, (value, values) => (some value, rest.met values)

/-- Each field value that is written is read as the other one. -/
def Restores (room : Nat) : Fields τ σ → τ → τ → Prop
  | .nil, _, _ => True
  | .cons field rest, (value, values), (value', values') =>
    field.codec.decode.Takes room (field.codec.encode value) value' ∧
      rest.Restores room values values'

/-- A record whose fields were all met is filled with them. -/
theorem fill_met (fields : Fields τ σ) (values : τ) :
    fields.fill (fields.met values) = .ok values := by
  induction fields with
  | nil => rfl
  | cons field rest ih =>
    obtain ⟨value, values⟩ := values
    simp [fill, met, ih values, bind, Except.bind, pure, Except.pure]

/-! ### Members -/

/-- A member that no field has a name for meets none. -/
theorem met?_eq_none {fields : Fields τ σ} {key : String} (unknown : key ∉ fields.names)
    (values : σ) : fields.met? key values = none := by
  induction fields with
  | nil => rfl
  | cons field rest ih =>
    obtain ⟨value, values⟩ := values
    rw [names, List.mem_cons, not_or] at unknown
    rw [met?, if_neg unknown.1, ih unknown.2 values]
    rfl

/-- Unknown members are passed over. -/
theorem passes_unknown {fields : Fields τ σ} {ms : List (String × Json)}
    (unknown : ∀ m ∈ ms, m.1 ∉ fields.names) (room : Nat) (values : σ) :
    Passes fields.member room ms values values := by
  induction ms with
  | nil => exact .nil
  | cons m ms ih =>
    have others := ih fun m' member => unknown m' (List.mem_cons_of_mem m member)
    refine .cons ?_ others
    intro rest
    simp [member, met?_eq_none (unknown m List.mem_cons_self), expect, skip_toTokens_append, bind,
      Except.bind, pure, Except.pure]

/-- A member that is not the first field leaves that one as it is. -/
theorem member_cons_of_ne {field : Field α} {rest : Fields τ σ} {key : String}
    (other : key ≠ field.name) (value : Option α) {values values' : σ} {room : Nat}
    {ts ts' : List Token} (read : rest.member key values room ts = .ok (values', ts')) :
    (cons field rest).member key (value, values) room ts = .ok ((value, values'), ts') := by
  rw [member] at read
  rw [member, met?, if_neg other]
  -- The member is that of a later field, or it is passed over.
  cases found : rest.met? key values with
  | none =>
    simp only [found, Option.map_none] at read ⊢
    cases expected : expect .colon ts with
    | error => simp [expected, bind, Except.bind] at read
    | ok ts₁ =>
      cases skipped : skip ts₁ with
      | error => simp [expected, skipped, bind, Except.bind] at read
      | ok ts₂ => simp_all [bind, Except.bind, pure, Except.pure]
  | some decode =>
    simp only [found, Option.map_some] at read ⊢
    simp [read, bind, Except.bind, pure, Except.pure]

/-- So do all such members. -/
theorem passes_cons_of_ne {field : Field α} {rest : Fields τ σ} {ms : List (String × Json)}
    {room : Nat} {values values' : σ} (value : Option α) (other : ∀ m ∈ ms, m.1 ≠ field.name)
    (passes : Passes rest.member room ms values values') :
    Passes (cons field rest).member room ms (value, values) (value, values') := by
  induction passes with
  | nil => exact .nil
  | cons first _ ih =>
    have others := ih fun m member => other m (List.mem_cons_of_mem _ member)
    refine .cons ?_ others
    intro rest
    exact member_cons_of_ne (other _ List.mem_cons_self) value (first rest)

/-- A record is written with the names of its fields, in their order. -/
theorem map_fst_encode (fields : Fields τ σ) (values : τ) :
    (fields.encode values).map Prod.fst = fields.names := by
  induction fields with
  | nil => rfl
  | cons field rest ih =>
    obtain ⟨value, values⟩ := values
    rw [encode, names, List.map_cons, ih]

/-- The members that are written lead to all values. -/
theorem passes_encode {fields : Fields τ σ} {room : Nat} {values values' : τ}
    (distinct : fields.names.Nodup) (restores : fields.Restores room values values') :
    Passes fields.member room (fields.encode values) fields.unmet (fields.met values') := by
  induction fields with
  | nil => exact .nil
  | cons field rest ih =>
    obtain ⟨value, values⟩ := values
    obtain ⟨value', values'⟩ := values'
    obtain ⟨takes, restores⟩ := restores
    obtain ⟨fresh, distinct⟩ := List.nodup_cons.1 distinct
    -- No later member has the name, so that the field keeps the value that was read.
    have other : ∀ m ∈ rest.encode values, m.1 ≠ field.name := by
      intro m member same
      rw [← map_fst_encode rest values, ← same] at fresh
      exact fresh (List.mem_map_of_mem member)
    refine .cons (fun ts => ?_) (passes_cons_of_ne (some value') other (ih distinct restores))
    have read := takes ts
    simp [member, met?, unmet, expect, read, bind, Except.bind, pure, Except.pure]

end Fields

/-! ### Codecs -/

namespace Codec

variable {room : Nat}

/-- A record is read from its members, with any others after them. -/
theorem takes_record {fields : Fields τ σ} {make : τ → α} {values : α → τ} {a a' : α}
    {more : List (String × Json)} (distinct : fields.names.Nodup)
    (restores : fields.Restores room (values a) (values a')) (made : make (values a') = a')
    (unknown : ∀ m ∈ more, m.1 ∉ fields.names) :
    (record fields make values).decode.Takes (room + 1)
      (.object (fields.encode (values a) ++ more)) a' := by
  intro rest
  have passes := (Fields.passes_encode distinct restores).append
    (Fields.passes_unknown unknown room (fields.met (values a')))
  have read := members_memberTokens passes rest
  rw [toTokens, List.cons_append, List.append_assoc, List.singleton_append]
  simp only [record, Fields.decode, enter, bind, Except.bind, read, Fields.fill_met]
  show Except.ok (make (values a'), rest) = _
  rw [made]

/-- A record is read from what it is written as. -/
theorem takes_record_encode {fields : Fields τ σ} {make : τ → α} {values : α → τ} {a a' : α}
    (distinct : fields.names.Nodup)
    (restores : fields.Restores room (values a) (values a')) (made : make (values a') = a') :
    (record fields make values).decode.Takes (room + 1) ((record fields make values).encode a)
      a' := by
  have takes : (record fields make values).decode.Takes (room + 1)
      (.object (fields.encode (values a) ++ [])) a' :=
    takes_record distinct restores made (by simp)
  rwa [List.append_nil] at takes

/-- A text is taken as it is. -/
theorem takes_string (s : String) : string.decode.Takes room (.string s) s :=
  fun _ => rfl

/-- Counts are read up to 64 bits. -/
theorem takes_count {n : Nat} (small : n < 0x10000000000000000) :
    count.decode.Takes room (count.encode n) n := by
  intro rest
  have inRange : (n : Int) ≤ 0xffffffffffffffff := by omega
  simp [count, map, integer, toTokens, inRange, bind, Except.bind, pure, Except.pure]

/-- A list is taken where its items are. -/
theorem takes_list {codec : Codec α} {as bs : List α}
    (each : List.Forall₂ (fun a b => codec.decode.Takes room (codec.encode a) b) as bs) :
    (list codec).decode.Takes (room + 1) ((list codec).encode as) bs :=
  Json.takes_list (List.forall₂_map_left_iff.2 each)

/-- An empty list has brackets of its own. -/
theorem takes_nil {codec : Codec α} :
    (list codec).decode.Takes (room + 1) ((list codec).encode []) [] :=
  takes_list .nil

/-- Absence is written as `null`. -/
theorem takes_none {codec : Codec α} :
    (option codec).decode.Takes room ((option codec).encode none) none :=
  fun _ => rfl

/-- A value is told from its absence where it is not written as `null`. -/
theorem takes_option {codec : Codec α} {a? : Option α}
    (each : ∀ a ∈ a?, codec.encode a ≠ .null ∧ codec.decode.Takes room (codec.encode a) a) :
    (option codec).decode.Takes room ((option codec).encode a?) a? := by
  cases a? with
  | none => exact takes_none
  | some a =>
    obtain ⟨other, takes⟩ := each a rfl
    intro rest
    have read := takes rest
    -- The first token decides, and a value that is no null does not start like one.
    have noNull : ∀ rest', (codec.encode a).toTokens ++ rest ≠ .null :: rest' := by
      cases h : codec.encode a <;> simp_all [toTokens]
    show (option codec).decode room ((codec.encode a).toTokens ++ rest) = _
    rw [option]
    simp [read, bind, Except.bind, pure, Except.pure]

end Codec

end AssetRegistry.Json
