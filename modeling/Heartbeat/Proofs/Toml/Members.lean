import Heartbeat.Toml.Value

/-!
Members by name. However a name is given a value, the other names keep theirs.
-/

namespace Heartbeat.Toml

/-- No name stands twice. -/
def Distinct (members : Members) : Prop :=
  (members.map Prod.fst).Nodup

section

variable {name other : String} {value : Value} {members : Members}

theorem member?_cons (other : String) (value : Value) (members : Members) :
    member? name ((other, value) :: members) =
      if other = name then some value else member? name members :=
  rfl

theorem member?_append (name : String) (members others : Members) :
    member? name (members ++ others) = (member? name members).or (member? name others) := by
  induction members with
  | nil => rfl
  | cons member members ih =>
      obtain ⟨other, value⟩ := member
      rw [List.cons_append, member?_cons, member?_cons, ih]
      by_cases same : other = name
      · rw [if_pos same, if_pos same]
        rfl
      · rw [if_neg same, if_neg same]

theorem member?_eq_none : member? name members = none ↔ name ∉ members.map Prod.fst := by
  induction members with
  | nil => exact ⟨fun _ => List.not_mem_nil, fun _ => rfl⟩
  | cons member members ih =>
      obtain ⟨other, value⟩ := member
      rw [member?_cons, List.map_cons, List.mem_cons, not_or]
      by_cases same : other = name
      · rw [if_pos same]
        exact ⟨nofun, fun apart => absurd same.symm apart.1⟩
      · rw [if_neg same, ih]
        exact ⟨fun absent => ⟨fun eq => same eq.symm, absent⟩, fun apart => apart.2⟩

/-- In a longer list in which no name stands twice, a name has the value that it had. -/
theorem member?_cons_of_distinct (distinct : Distinct ((name, value) :: members))
    (found : member? other members = some held) :
    member? other ((name, value) :: members) = some held := by
  obtain ⟨absent, -⟩ := List.nodup_cons.mp distinct
  rw [member?_cons, if_neg, found]
  rintro rfl
  rw [member?_eq_none.mpr absent] at found
  cases found

theorem names_replaceMember (name : String) (value : Value) (members : Members) :
    (replaceMember name value members).map Prod.fst = members.map Prod.fst := by
  induction members with
  | nil => rfl
  | cons member members ih =>
      obtain ⟨other, old⟩ := member
      rw [replaceMember]
      split
      · rename_i same
        rw [List.map_cons, List.map_cons, same]
      · rw [List.map_cons, List.map_cons, ih]

theorem member?_replaceMember (present : member? name members = some old) (value : Value)
    (other : String) :
    member? other (replaceMember name value members) =
      if other = name then some value else member? other members := by
  induction members with
  | nil => cases present
  | cons member members ih =>
      obtain ⟨first, held⟩ := member
      rw [member?_cons] at present
      rw [replaceMember, member?_cons]
      by_cases same : first = name
      · subst same
        rw [if_pos rfl, member?_cons]
        by_cases found : first = other
        · rw [if_pos found, if_pos found.symm]
        · rw [if_neg found, if_neg (Ne.symm found), if_neg found]
      · rw [if_neg same] at present ⊢
        rw [member?_cons]
        by_cases found : first = other
        · rw [if_pos found, if_pos found, if_neg fun eq => same (found.trans eq)]
        · rw [if_neg found, if_neg found, ih present]

theorem eraseMember_sublist (name : String) (members : Members) :
    (eraseMember name members).Sublist members := by
  induction members with
  | nil => exact .slnil
  | cons member members ih =>
      obtain ⟨other, value⟩ := member
      rw [eraseMember]
      split
      · exact List.sublist_cons_self _ _
      · exact ih.cons_cons _

theorem member?_eraseMember (distinct : Distinct members) (other : String) :
    member? other (eraseMember name members) =
      if other = name then none else member? other members := by
  induction members with
  | nil =>
      rw [eraseMember]
      split <;> rfl
  | cons member members ih =>
      obtain ⟨first, value⟩ := member
      obtain ⟨absent, distinct⟩ := List.nodup_cons.mp distinct
      rw [eraseMember, member?_cons]
      by_cases same : first = name
      · subst same
        rw [if_pos rfl]
        by_cases found : first = other
        · subst found
          rw [if_pos rfl, member?_eq_none.mpr absent]
        · rw [if_neg (Ne.symm found), if_neg found]
      · rw [if_neg same, member?_cons]
        by_cases found : first = other
        · rw [if_pos found, if_pos found, if_neg fun eq => same (found.trans eq)]
        · rw [if_neg found, if_neg found, ih distinct]

end

/-- One name is given a value, whether or not it had one. -/
structure Sets (name : String) (value : Value) (old new : Members) : Prop where
  distinct : Distinct new
  lookup : ∀ other, member? other new = if other = name then some value else member? other old

section

variable {name : String} {members : Members}

theorem sets_append (distinct : Distinct members) (absent : member? name members = none)
    (value : Value) : Sets name value members (members ++ [(name, value)]) where
  distinct := by
    rw [Distinct, List.map_append]
    refine List.nodup_append.mpr ⟨distinct, List.pairwise_singleton .., ?_⟩
    rintro other inside last single rfl
    rw [List.mem_singleton.mp single] at inside
    exact member?_eq_none.mp absent inside
  lookup := by
    intro other
    rw [member?_append, member?_cons]
    by_cases same : other = name
    · subst same
      rw [absent, if_pos rfl, if_pos rfl]
      rfl
    · rw [if_neg (Ne.symm same), if_neg same]
      exact Option.or_none

theorem sets_replaceMember (distinct : Distinct members)
    (present : member? name members = some old) (value : Value) :
    Sets name value members (replaceMember name value members) where
  distinct := by
    rw [Distinct, names_replaceMember]
    exact distinct
  lookup := member?_replaceMember present value

theorem sets_eraseMember (distinct : Distinct members) (name : String) (value : Value) :
    Sets name value members (eraseMember name members ++ [(name, value)]) := by
  have rest : Distinct (eraseMember name members) :=
    distinct.sublist ((eraseMember_sublist name members).map Prod.fst)
  have absent : member? name (eraseMember name members) = none := by
    rw [member?_eraseMember distinct, if_pos rfl]
  have sets := sets_append rest absent value
  refine ⟨sets.distinct, fun other => ?_⟩
  rw [sets.lookup, member?_eraseMember distinct]
  split
  · rfl
  · rfl

end

end Heartbeat.Toml
