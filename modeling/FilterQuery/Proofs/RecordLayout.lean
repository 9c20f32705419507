import FilterQuery.Config.Json
import FilterQuery.Proofs.Basics

/-!
# Members of records

A `Part` says of a member what is read, and where the structure keeps it. If the members of a record
are parts that do not overlap and make up the structure (`Record.HasParts`), then reading an object
with distinct keys succeeds with the one structure that has in each part what the object gives for
it, or else what is there to begin with (`HasParts.readRecord_object`). The order of the keys does
not matter, nor does a key that no member has. An array is short for the object that gives its items
to the members in their order (`HasParts.readRecord_array`).
-/

namespace FilterQuery

/-! ### Distinct keys -/

/-- No object has a key twice. -/
inductive Json.DistinctKeys : Json → Prop where
  | null : DistinctKeys .null
  | bool (b : Bool) : DistinctKeys (.bool b)
  | integer (n : Int) : DistinctKeys (.integer n)
  | float (d : Decimal) : DistinctKeys (.float d)
  | string (s : String) : DistinctKeys (.string s)
  | array {items : List Json} : (∀ item ∈ items, DistinctKeys item) → DistinctKeys (.array items)
  | object {members : List (String × Json)} : (members.map (·.1)).Nodup →
    (∀ entry ∈ members, DistinctKeys entry.2) → DistinctKeys (.object members)

namespace Json

attribute [simp] DistinctKeys.null DistinctKeys.bool DistinctKeys.integer DistinctKeys.float
  DistinctKeys.string

@[simp] theorem distinctKeys_array_iff {items : List Json} :
    DistinctKeys (.array items) ↔ ∀ item ∈ items, item.DistinctKeys := by
  refine ⟨fun h => ?_, .array⟩
  cases h with
  | array hitems => exact hitems

@[simp] theorem distinctKeys_object_iff {members : List (String × Json)} :
    DistinctKeys (.object members) ↔
      (members.map (·.1)).Nodup ∧ ∀ entry ∈ members, entry.2.DistinctKeys := by
  refine ⟨fun h => ?_, fun h => .object h.1 h.2⟩
  cases h with
  | object hkeys hmembers => exact ⟨hkeys, hmembers⟩

end Json

namespace Config

variable {σ ε α : Type}

/-! ### Lists of named values -/

/-- Nothing is found under a name that is no key. -/
theorem lookup_eq_none_iff_not_mem {values : List (String × σ)} {name : String} :
    values.lookup name = none ↔ name ∉ values.map (·.1) := by
  rw [List.lookup_eq_none_iff, List.mem_map, not_exists]
  exact ⟨fun h entry hentry => bne_iff_ne.mp (h entry hentry.1) hentry.2.symm,
    fun h entry hentry => bne_iff_ne.mpr fun heq => h entry ⟨hentry, heq.symm⟩⟩

/-- What is found under a name stands there with it. -/
theorem mem_of_lookup_eq_some {values : List (String × σ)} {name : String} {v : σ}
    (h : values.lookup name = some v) : (name, v) ∈ values := by
  obtain ⟨before, after, rfl, -⟩ := List.lookup_eq_some_iff.mp h
  exact List.mem_append_right _ (.head _)

/-- Names that are given values are some of the names, in their order. -/
theorem map_fst_zip_sublist (names : List String) (values : List σ) :
    ((names.zip values).map (·.1)).Sublist names := by
  induction names generalizing values with
  | nil => exact .slnil
  | cons name names ih =>
    cases values with
    | nil => exact List.nil_sublist _
    | cons v values => exact (ih values).cons_cons name

/-! ### Parts of a structure -/

/-- A part of a structure, with the value that is read for it. -/
structure Part (σ ε α : Type) where
  name : String
  required : Bool
  Value : Type
  read : σ → Except ε Value
  get : α → Value
  set : Value → α → α

namespace Part

/-- The member that puts what is read in its place. -/
def member (p : Part σ ε α) : Member σ ε α :=
  ⟨p.name, p.required, fun v a => return p.set (← p.read v) a⟩

/-- The structure `a` has in this part what is read of what is given, or what `b` has if nothing
is. -/
def Shows (p : Part σ ε α) (b : α) : Option σ → α → Prop
  | none, a => p.get a = p.get b
  | some v, a => p.read v = .ok (p.get a)

/-- The same, and what is required is given. -/
def Holds (p : Part σ ε α) (b : α) (given : Option σ) (a : α) : Prop :=
  (p.required → given ≠ none) ∧ p.Shows b given a

/-- Where nothing is given, only this part of the other structure matters. -/
theorem shows_congr {p : Part σ ε α} {given : Option σ} {a b c : α} (h : p.get b = p.get c) :
    p.Shows b given a ↔ p.Shows c given a := by
  cases given with
  | none => rw [Shows, Shows, h]
  | some v => rfl

theorem put_member_eq_ok {p : Part σ ε α} {v : σ} {a b : α} :
    p.member.put v b = .ok a ↔ ∃ x, p.read v = .ok x ∧ p.set x b = a := by
  rw [member, bind_eq_ok]
  simp only [pure_eq_ok]

end Part

namespace Record

/-- The members of the record are these parts, which do not overlap and make up the structure. -/
structure HasParts (r : Record σ ε α) (parts : List (Part σ ε α)) : Prop where
  members_eq : r.members = parts.map Part.member
  names_nodup : (parts.map (·.name)).Nodup
  get_set : ∀ p ∈ parts, ∀ x a, p.get (p.set x a) = x
  get_set_of_ne : ∀ p ∈ parts, ∀ q ∈ parts, p.name ≠ q.name → ∀ x a, q.get (p.set x a) = q.get a
  ext : ∀ {a b : α}, (∀ p ∈ parts, p.get a = p.get b) → a = b

/-- Puts one named value into the structure. -/
def putNamed (r : Record σ ε α) (a : α) (entry : String × σ) : Except ε α :=
  match r.member? entry.1 with
  | some m => m.put entry.2 a
  | none => .ok a

theorem putAll_eq_foldlM (r : Record σ ε α) (values : List (String × σ)) :
    r.putAll values = values.foldlM r.putNamed r.initial := rfl

namespace HasParts

variable {r : Record σ ε α} {parts : List (Part σ ε α)} {values : List (String × σ)} {a b : α}

/-! ### Putting named values -/

/-- A name finds the part that has it. -/
theorem member?_eq (h : r.HasParts parts) {p : Part σ ε α} (hp : p ∈ parts) :
    r.member? p.name = some p.member := by
  have hnames : (r.members.map (·.name)).Nodup := by
    rw [h.members_eq, List.map_map]
    exact h.names_nodup
  refine (find?_key_eq_some_iff hnames).mpr ⟨?_, rfl⟩
  rw [h.members_eq]
  exact List.mem_map_of_mem hp

theorem member?_eq_none (h : r.HasParts parts) {name : String}
    (hname : ∀ p ∈ parts, p.name ≠ name) : r.member? name = none := by
  rw [Record.member?, h.members_eq, List.find?_eq_none, List.forall_mem_map]
  exact fun p hp hfound => hname p hp (of_decide_eq_true hfound)

/-- The names of different parts are different. -/
theorem eq_of_name_eq (h : r.HasParts parts) {p q : Part σ ε α} (hp : p ∈ parts) (hq : q ∈ parts)
    (hname : p.name = q.name) : p = q :=
  List.inj_on_of_nodup_map h.names_nodup hp hq hname

/-- What holds of all parts holds of one of them and of those with other names. -/
theorem forall_iff (h : r.HasParts parts) {p : Part σ ε α} (hp : p ∈ parts)
    {P : Part σ ε α → Prop} :
    (∀ q ∈ parts, P q) ↔ P p ∧ ∀ q ∈ parts, q.name ≠ p.name → P q := by
  refine ⟨fun hall => ⟨hall p hp, fun q hq _ => hall q hq⟩, fun ⟨hone, hrest⟩ q hq => ?_⟩
  by_cases hname : q.name = p.name
  · rwa [h.eq_of_name_eq hq hp hname]
  · exact hrest q hq hname

/-- A value for a name that no part has is not read. -/
theorem putNamed_of_unknown (h : r.HasParts parts) {name : String} {v : σ}
    (hname : ∀ p ∈ parts, p.name ≠ name) : r.putNamed b (name, v) = .ok b := by
  rw [putNamed, h.member?_eq_none hname]

/-- A value for a part changes this part alone. -/
theorem putNamed_eq_ok_iff (h : r.HasParts parts) {p : Part σ ε α} (hp : p ∈ parts) {v : σ} :
    r.putNamed b (p.name, v) = .ok a ↔ p.read v = .ok (p.get a) ∧
      ∀ q ∈ parts, q.name ≠ p.name → q.get a = q.get b := by
  have hput : r.putNamed b (p.name, v) = p.member.put v b := by
    rw [putNamed, h.member?_eq hp]
  rw [hput, Part.put_member_eq_ok]
  constructor
  · rintro ⟨x, hx, rfl⟩
    refine ⟨?_, fun q hq hne => h.get_set_of_ne p hp q hq hne.symm x b⟩
    rw [h.get_set p hp, hx]
  · rintro ⟨hread, hrest⟩
    refine ⟨p.get a, hread, h.ext ((h.forall_iff hp).mpr ⟨h.get_set p hp _ _, fun q hq hne => ?_⟩)⟩
    rw [hrest q hq hne, h.get_set_of_ne p hp q hq hne.symm]

/-- **Named values with distinct names** are put in their places, whatever their order. -/
theorem foldlM_putNamed_eq_ok_iff (h : r.HasParts parts) (hd : (values.map (·.1)).Nodup) :
    values.foldlM r.putNamed b = .ok a ↔ ∀ p ∈ parts, p.Shows b (values.lookup p.name) a := by
  induction values generalizing b with
  | nil =>
    rw [List.foldlM_nil, pure_eq_ok]
    exact ⟨fun hba p _ => hba ▸ rfl, fun hget => (h.ext hget).symm⟩
  | cons entry values ih =>
    obtain ⟨name, v⟩ := entry
    obtain ⟨hnew, hrest⟩ := List.nodup_cons.mp hd
    have hother : ∀ p : Part σ ε α, p.name ≠ name →
        ((name, v) :: values).lookup p.name = values.lookup p.name := fun p hp => by
      rw [List.lookup_cons, beq_false_of_ne hp]
    rw [List.foldlM_cons, bind_eq_ok]
    -- The part of this name, if there is one, has its value now: no later entry is for it.
    by_cases hknown : ∃ p ∈ parts, p.name = name
    · obtain ⟨p, hp, rfl⟩ := hknown
      have hlast : values.lookup p.name = none := lookup_eq_none_iff_not_mem.mpr hnew
      rw [h.forall_iff hp, List.lookup_cons_self]
      constructor
      · rintro ⟨next, hnext, hvalues⟩
        obtain ⟨hread, hkept⟩ := (h.putNamed_eq_ok_iff hp).mp hnext
        have hshows := (ih hrest).mp hvalues
        refine ⟨?_, fun q hq hne => ?_⟩
        · have hget : p.Shows next none a := hlast ▸ hshows p hp
          rwa [Part.Shows, hget]
        · rw [hother q hne, ← Part.shows_congr (hkept q hq hne)]
          exact hshows q hq
      · rintro ⟨hread, hshows⟩
        have hget : p.get (p.set (p.get a) b) = p.get a := h.get_set p hp _ _
        have hkept : ∀ q ∈ parts, q.name ≠ p.name → q.get (p.set (p.get a) b) = q.get b :=
          fun q hq hne => h.get_set_of_ne p hp q hq hne.symm _ _
        refine ⟨p.set (p.get a) b, (h.putNamed_eq_ok_iff hp).mpr ⟨?_, hkept⟩,
          (ih hrest).mpr ((h.forall_iff hp).mpr ⟨?_, fun q hq hne => ?_⟩)⟩
        · rwa [hget]
        · rw [hlast]
          exact hget.symm
        · rw [Part.shows_congr (hkept q hq hne), ← hother q hne]
          exact hshows q hq hne
    · have hname : ∀ p ∈ parts, p.name ≠ name := fun p hp hpn => hknown ⟨p, hp, hpn⟩
      rw [h.putNamed_of_unknown hname]
      simp only [Except.ok.injEq, exists_eq_left', ih hrest]
      exact forall₂_congr fun p hp => by rw [hother p (hname p hp)]

/-- No required member is missing if all that are required are named. -/
theorem missing?_eq_none_iff (h : r.HasParts parts) {names : List String} :
    r.missing? names = none ↔ ∀ p ∈ parts, p.required → p.name ∈ names := by
  rw [Record.missing?, Option.map_eq_none_iff, h.members_eq, List.find?_eq_none,
    List.forall_mem_map]
  refine forall₂_congr fun p _ => ?_
  simp [Part.member]

end HasParts

end Record

/-! ### Objects -/

section Json

variable {r : Record Json JsonFault α} {parts : List (Part Json JsonFault α)} {a b : α}
  {items : List Json}

theorem readRecord_object_eq_ok_iff {members : List (String × Json)} :
    readRecord r (.object members) = .ok a ↔
      r.putAll members = .ok a ∧ r.missing? (members.map (·.1)) = none := by
  rw [readRecord, bind_eq_ok]
  cases r.missing? (members.map (·.1)) <;> simp

namespace Record.HasParts

/-- **An object is read** as the structure that has in each part what the object gives for it, and
where it gives nothing, what is there to begin with. -/
theorem readRecord_object (h : r.HasParts parts) {members : List (String × Json)}
    (hd : (members.map (·.1)).Nodup) :
    readRecord r (.object members) = .ok a ↔
      ∀ p ∈ parts, p.Holds r.initial (members.lookup p.name) a := by
  have hnamed : ∀ name : String, name ∈ members.map (·.1) ↔ members.lookup name ≠ none :=
    fun name => by rw [ne_eq, lookup_eq_none_iff_not_mem, not_not]
  simp only [readRecord_object_eq_ok_iff, putAll_eq_foldlM, h.foldlM_putNamed_eq_ok_iff hd,
    h.missing?_eq_none_iff, hnamed, Part.Holds, forall_and, and_comm]

/-! ### Arrays -/

/-- Where an array ends, only members that are not required may be left. -/
theorem readItems_nil_eq_ok_iff {rest : List (Part Json JsonFault α)} (length index : Nat) :
    readItems r length index (rest.map Part.member) [] b = .ok a ↔
      (∀ p ∈ rest, ¬ p.required) ∧ b = a := by
  induction rest generalizing index with
  | nil => simp [readItems]
  | cons p rest ih =>
    rw [List.map_cons, readItems, List.forall_mem_cons, and_assoc, ← ih (index + 1)]
    by_cases hrequired : p.required
    · simp [Part.member, hrequired]
    · simp [Part.member, hrequired]

/-- The items of an array are the values of the members in their order. -/
theorem readItems_eq_ok_iff (h : r.HasParts parts) {rest : List (Part Json JsonFault α)}
    (hrest : ∀ p ∈ rest, p ∈ parts) (hd : (rest.map (·.name)).Nodup) (length index : Nat) :
    readItems r length index (rest.map Part.member) items b = .ok a ↔
      items.length ≤ rest.length ∧
      (∀ p ∈ rest, p.required → p.name ∈ ((rest.map (·.name)).zip items).map (·.1)) ∧
      ((rest.map (·.name)).zip items).foldlM r.putNamed b = .ok a := by
  induction rest generalizing index items b with
  | nil =>
    cases items with
    | nil => simp [readItems, pure_eq_ok]
    | cons item items => simp [readItems]
  | cons p rest ih =>
    cases items with
    | nil =>
      rw [readItems_nil_eq_ok_iff, List.zip_nil_right, List.foldlM_nil, pure_eq_ok]
      simp
    | cons item items =>
      obtain ⟨hp, hrest⟩ := List.forall_mem_cons.mp hrest
      obtain ⟨hnew, hd⟩ := List.nodup_cons.mp hd
      have hput : r.putNamed b (p.name, item) = p.member.put item b := by
        rw [putNamed, h.member?_eq hp]
      have hnamed : ∀ names : List String,
          (∀ q ∈ p :: rest, q.required → q.name ∈ p.name :: names) ↔
            ∀ q ∈ rest, q.required → q.name ∈ names := by
        intro names
        rw [List.forall_mem_cons]
        refine ⟨fun ⟨_, hall⟩ q hq hrequired => ?_,
          fun hall => ⟨fun _ => .head _, fun q hq hrequired => .tail _ (hall q hq hrequired)⟩⟩
        refine (List.mem_cons.mp (hall q hq hrequired)).resolve_left fun hname => hnew ?_
        exact List.mem_map.mpr ⟨q, hq, hname⟩
      simp only [List.map_cons, readItems, List.zip_cons_cons, List.foldlM_cons, bind_eq_ok, hput,
        hnamed, ih hrest hd, List.length_cons, Nat.add_le_add_iff_right]
      constructor
      · rintro ⟨next, hnext, hlength, hrequired, hitems⟩
        exact ⟨hlength, hrequired, next, hnext, hitems⟩
      · rintro ⟨hlength, hrequired, next, hnext, hitems⟩
        exact ⟨next, hnext, hlength, hrequired, hitems⟩

/-- **An array is read** as the object that gives its items to the members in their order. It does
not go on after the last member. -/
theorem readRecord_array (h : r.HasParts parts) :
    readRecord r (.array items) = .ok a ↔ items.length ≤ parts.length ∧
      readRecord r (.object ((parts.map (·.name)).zip items)) = .ok a := by
  rw [readRecord_object_eq_ok_iff, putAll_eq_foldlM, h.missing?_eq_none_iff, readRecord,
    h.members_eq, h.readItems_eq_ok_iff (fun _ => id) h.names_nodup]
  exact and_congr_right' and_comm

end Record.HasParts

/-! ### Objects and arrays alike -/

/-- The values that are given to members of these names: those of an object with distinct keys, or
the items of an array in the order of the names. -/
inductive Gives (names : List String) : Json → (String → Option Json) → Prop where
  | object {members : List (String × Json)} : (members.map (·.1)).Nodup →
    Gives names (.object members) fun name => members.lookup name
  | array {items : List Json} : items.length ≤ names.length →
    Gives names (.array items) fun name => (names.zip items).lookup name

variable {v : Json} {given : String → Option Json}

/-- The keys within what is given are distinct if all are. -/
theorem Gives.distinctKeys {names : List String} (hg : Gives names v given) (hd : v.DistinctKeys)
    {name : String} {w : Json} (hw : given name = some w) : w.DistinctKeys := by
  cases hg with
  | object _ => exact (Json.distinctKeys_object_iff.mp hd).2 _ (mem_of_lookup_eq_some hw)
  | array _ =>
    exact Json.distinctKeys_array_iff.mp hd w (List.of_mem_zip (mem_of_lookup_eq_some hw)).2

namespace Record.HasParts

/-- **A record is read** out of what is given to its members. -/
theorem readRecord_of_gives (h : r.HasParts parts) (hg : Gives (parts.map (·.name)) v given) :
    readRecord r v = .ok a ↔ ∀ p ∈ parts, p.Holds r.initial (given p.name) a := by
  cases hg with
  | object hd => exact h.readRecord_object hd
  | @array items hlength =>
    have hkeys : (((parts.map (·.name)).zip items).map (·.1)).Nodup :=
      h.names_nodup.sublist (map_fst_zip_sublist _ items)
    rw [List.length_map] at hlength
    rw [h.readRecord_array, h.readRecord_object hkeys]
    exact and_iff_right hlength

/-- **Whatever is read as a record** gives values to its members if its keys are distinct, and they
are what the parts of the structure have. -/
theorem exists_gives (h : r.HasParts parts) (hd : v.DistinctKeys) (hread : readRecord r v = .ok a) :
    ∃ given, Gives (parts.map (·.name)) v given ∧
      ∀ p ∈ parts, p.Holds r.initial (given p.name) a := by
  have hgives : ∃ given, Gives (parts.map (·.name)) v given := by
    cases v with
    | object members => exact ⟨_, .object (Json.distinctKeys_object_iff.mp hd).1⟩
    | array items =>
      refine ⟨_, .array ?_⟩
      rw [List.length_map]
      exact (h.readRecord_array.mp hread).1
    | null | bool | integer | float | string => exact absurd hread nofun
  obtain ⟨given, hgives⟩ := hgives
  exact ⟨given, hgives, (h.readRecord_of_gives hgives).mp hread⟩

end Record.HasParts

end Json

end Config

end FilterQuery
