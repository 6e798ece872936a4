import FamilyOrders.Json.Basic
import Mathlib.Data.List.Forall2
import Mathlib.Data.List.Nodup

/-!
# Records written, read and widened

A record is read back from the object that is written for it.  It also says the
same when the members of its object stand in another order, when members with
other names are added, and when that is done to the records inside it.  A
widening says how a value may be widened in this way; a reader respects it when
it finds the same in a value and in a widened one.
-/

namespace FamilyOrders.Json

/-! ### Written values -/

/-- The reader gives back every value that is written, and none is written as
`null`. -/
structure Inverts (read : Json → Option α) (write : α → Json) : Prop where
  reads : ∀ a, read (write a) = some a
  ne_null : ∀ a, write a ≠ .null

theorem optional_of_ne_null
    {read : Json → Option α} {json : Json} (hjson : json ≠ .null) :
    optional read (some json) = (read json).map some :=
  optional.eq_3 read json hjson

namespace Inverts

variable {read : Json → Option α} {write : α → Json}

theorem optional
    (hinverts : Inverts read write) (value : Option α) :
    optional read (some (ofOption write value)) = some value := by
  cases value with
  | none => rfl
  | some a =>
      rw [ofOption, optional_of_ne_null (hinverts.ne_null a), hinverts.reads,
        Option.map_some]

theorem list?
    (hinverts : Inverts read write) (values : List α) :
    list? read (.array (values.map write)) = some values := by
  change (values.map write).mapM read = some values
  induction values with
  | nil => rfl
  | cons a rest ih =>
      rw [List.map_cons, List.mapM_cons, hinverts.reads, ih]
      rfl

end Inverts

theorem optional_ofString?
    (text : Option String) :
    optional string? (some (ofString? text)) = some text := by
  cases text <;> rfl

theorem inverts_coded
    [Coded α] (wrapping : Wrapping) :
    Inverts (coded? wrapping) (ofCoded : α → Json) where
  reads a := Coded.ofCode?_code a
  ne_null _ := nofun

@[simp] theorem lookup?_cons
    (name key : String) (value : Json) (rest : List (String × Json)) :
    lookup? name ((key, value) :: rest) =
      if key = name then some value else lookup? name rest := by
  unfold lookup?
  rw [List.find?_cons]
  by_cases hname : key = name
  · rw [if_pos hname, beq_iff_eq.mpr hname]
    rfl
  · rw [if_neg hname, beq_eq_false_iff_ne.mpr hname]

section Objects

variable {members : List (String × Json)} {given : List String}
  (hnodup : given.Nodup) (hgiven : members.map Prod.fst = given)
include hnodup hgiven

theorem all_isUnique_of_nodup
    (names : List String) :
    names.all (isUnique members) = true := by
  rw [List.all_eq_true]
  intro name _
  have hcount : (members.map Prod.fst).count name ≤ 1 :=
    List.nodup_iff_count_le_one.mp (hgiven ▸ hnodup) name
  rw [List.count_eq_countP, List.countP_map,
    List.countP_eq_length_filter] at hcount
  exact decide_eq_true hcount

/-- An object that names each field once gives them all. -/
theorem named?_of_nodup
    (names : List String) :
    named? names (.object members) = some (lookup? · members) := by
  rw [named?, all_isUnique_of_nodup hnodup hgiven]
  rfl

theorem fields?_of_nodup
    (names : List String) :
    fields? names (.object members) = some (lookup? · members) :=
  named?_of_nodup hnodup hgiven names

theorem divided?_of_nodup
    (names : List String) :
    divided? names (.object members) =
      some ((lookup? · members),
        .object (members.filter fun member => !names.contains member.1)) := by
  rw [divided?, all_isUnique_of_nodup hnodup hgiven]
  rfl

end Objects

/-- Members that come after those asked for are kept aside. -/
theorem divided?_append
    {asked others : List (String × Json)} {names otherNames : List String}
    (hnodup : (names ++ otherNames).Nodup) (hasked : asked.map Prod.fst = names)
    (hothers : others.map Prod.fst = otherNames) :
    divided? names (.object (asked ++ others)) =
      some ((lookup? · (asked ++ others)), .object others) := by
  have hgiven : (asked ++ others).map Prod.fst = names ++ otherNames := by
    rw [List.map_append, hasked, hothers]
  have hdropped :
      (asked.filter fun member => !names.contains member.1) = [] := by
    rw [List.filter_eq_nil_iff]
    intro member hmember
    have hname : member.1 ∈ names := hasked ▸ List.mem_map_of_mem hmember
    rw [List.contains_iff_mem.mpr hname]
    exact Bool.false_ne_true
  have hkept :
      (others.filter fun member => !names.contains member.1) = others := by
    rw [List.filter_eq_self]
    intro member hmember
    have hname : member.1 ∈ otherNames := hothers ▸ List.mem_map_of_mem hmember
    have hapart : member.1 ∉ names := fun hmem =>
      (List.nodup_append.mp hnodup).2.2 _ hmem _ hname rfl
    rw [Bool.eq_false_iff.mpr (mt List.contains_iff_mem.mp hapart)]
    rfl
  rw [divided?_of_nodup hnodup hgiven, List.filter_append, hdropped, hkept,
    List.nil_append]

/-! ### Widened values -/

/-- A relation between a value and the same value widened.  A widened `null` is
`null`, and nothing else is. -/
structure Widening where
  Widens : Json → Json → Prop
  refl : ∀ json, Widens json json
  null_iff :
    ∀ {json widened}, Widens json widened → (widened = .null ↔ json = .null)

/-- The reader finds the same in a widened value. -/
def Widening.Respected (widening : Widening) (read : Json → Option α) : Prop :=
  ∀ ⦃json widened⦄, widening.Widens json widened → read widened = read json

namespace Widening

/-- Values that stay as they are. -/
def same : Widening where
  Widens := fun json widened => widened = json
  refl _ := rfl
  null_iff heq := by rw [heq]

inductive ItemsWiden (item : Widening) : Json → Json → Prop
  | same (json : Json) : ItemsWiden item json json
  | array {items widened : List Json}
      (hitems : List.Forall₂ item.Widens items widened) :
      ItemsWiden item (.array items) (.array widened)

/-- Arrays with widened items. -/
def items (item : Widening) : Widening where
  Widens := ItemsWiden item
  refl := .same
  null_iff hwidens := by
    cases hwidens with
    | same => exact Iff.rfl
    | array => exact iff_of_false nofun nofun

/-- A member of the same name, with its value widened. -/
def MemberWidens (field : String → Widening) (member widened : String × Json) :
    Prop :=
  widened.1 = member.1 ∧ (field member.1).Widens member.2 widened.2

/-- An object keeps its members, in any order, and may have others with names
that are not those of its fields.  An array lists the same fields. -/
inductive RecordWidens (names : List String) (field : String → Widening) :
    Json → Json → Prop
  | same (json : Json) : RecordWidens names field json json
  | object {members kept added widened : List (String × Json)}
      (hkept : List.Forall₂ (MemberWidens field) members kept)
      (hadded : ∀ member ∈ added, member.1 ∉ names)
      (hperm : widened.Perm (kept ++ added)) :
      RecordWidens names field (.object members) (.object widened)
  | array {items widened : List Json} (hlength : widened.length = items.length)
      (hitems :
        List.Forall₂ (MemberWidens field) (names.zip items)
          (names.zip widened)) :
      RecordWidens names field (.array items) (.array widened)

def record (names : List String) (field : String → Widening) : Widening where
  Widens := RecordWidens names field
  refl := .same
  null_iff hwidens := by
    cases hwidens with
    | same => exact Iff.rfl
    | object => exact iff_of_false nofun nofun
    | array => exact iff_of_false nofun nofun

/-! ### Readers of fields -/

variable {widening : Widening} {read : Json →
  Option α} {value widened : Option Json}

theorem Respected.optional
    (hread : widening.Respected read)
    (hvalue : Option.Rel widening.Widens value widened) :
    optional read widened = optional read value := by
  cases hvalue with
  | none => rfl
  | @some json wide hwidens =>
      by_cases hnull : json = .null
      · rw [hnull, (widening.null_iff hwidens).mpr hnull]
      · have hwide : wide ≠ .null :=
          fun heq => hnull ((widening.null_iff hwidens).mp heq)
        rw [optional_of_ne_null hnull, optional_of_ne_null hwide, hread hwidens]

theorem Respected.withDefault
    (hread : widening.Respected read) (fallback : α)
    (hvalue : Option.Rel widening.Widens value widened) :
    withDefault fallback read widened = withDefault fallback read value := by
  cases hvalue with
  | none => rfl
  | some hwidens => exact hread hwidens

theorem Respected.required
    (hread : widening.Respected read)
    (hvalue : Option.Rel widening.Widens value widened) :
    required read widened = required read value := by
  cases hvalue with
  | none => rfl
  | some hwidens => exact hread hwidens

theorem mapM_widened
    {items widened : List Json} (hread : widening.Respected read)
    (hitems : List.Forall₂ widening.Widens items widened) :
    widened.mapM read = items.mapM read := by
  induction hitems with
  | nil => rfl
  | cons hfirst hrest ih =>
      rw [List.mapM_cons, List.mapM_cons, hread hfirst, ih]

theorem Respected.list?
    (hread : widening.Respected read) :
    widening.items.Respected (list? read) := by
  intro json widened hwidens
  cases hwidens with
  | same => rfl
  | array hitems => exact mapM_widened hread hitems

/-! ### Fields of records -/

variable {names asked : List String} {field : String → Widening} {name : String}
  {members kept added rest : List (String × Json)} {json wide : Json}

/-- The fields have the same values, widened. -/
def FieldsWiden (names : List String) (field : String → Widening)
    (value widened : String → Option Json) : Prop :=
  ∀ name ∈ names, Option.Rel (field name).Widens (value name) (widened name)

theorem lookup?_widened
    (hkept : List.Forall₂ (MemberWidens field) members kept) (name : String) :
    Option.Rel (field name).Widens (lookup? name members)
      (lookup? name kept) := by
  induction hkept with
  | nil => exact .none
  | @cons member wide rest wideRest hfirst hrest ih =>
      obtain ⟨hname, hwidens⟩ := hfirst
      unfold lookup? at ih ⊢
      rw [List.find?_cons, List.find?_cons, hname]
      cases hfound : member.1 == name with
      | true =>
          rw [eq_of_beq hfound] at hwidens
          exact .some hwidens
      | false => exact ih

theorem isUnique_widened
    (hkept : List.Forall₂ (MemberWidens field) members kept) (name : String) :
    isUnique kept name = isUnique members name := by
  have hcalled : List.Forall₂ (MemberWidens field)
      (members.filter fun member => member.1 == name)
      (kept.filter fun member => member.1 == name) := by
    apply List.rel_filter _ hkept
    rintro member wide ⟨hname, -⟩
    dsimp only
    rw [hname]
  rw [isUnique, isUnique, hcalled.length_eq]

/-- Members with other names do not count, and neither does the order. -/
theorem called_perm
    (hadded : ∀ member ∈ added, member.1 ≠ name)
    (hperm : rest.Perm (kept ++ added)) :
    (rest.filter fun member => member.1 == name).Perm
      (kept.filter fun member => member.1 == name) := by
  have hnone : (added.filter fun member => member.1 == name) = [] := by
    rw [List.filter_eq_nil_iff]
    intro member hmember hname
    exact hadded member hmember (eq_of_beq hname)
  have hcalled := hperm.filter fun member => member.1 == name
  rwa [List.filter_append, hnone, List.append_nil] at hcalled

theorem isUnique_of_perm
    (hadded : ∀ member ∈ added, member.1 ≠ name)
    (hperm : rest.Perm (kept ++ added)) :
    isUnique rest name = isUnique kept name := by
  rw [isUnique, isUnique, (called_perm hadded hperm).length_eq]

theorem lookup?_of_perm
    (hadded : ∀ member ∈ added, member.1 ≠ name)
    (hperm : rest.Perm (kept ++ added)) (hunique : isUnique kept name = true) :
    lookup? name rest = lookup? name kept := by
  have hcalled := called_perm hadded hperm
  have hone := of_decide_eq_true hunique
  have hsame : (rest.filter fun member => member.1 == name) =
      kept.filter fun member => member.1 == name := by
    rcases Nat.le_one_iff_eq_zero_or_eq_one.mp hone with hzero | hone
    · rw [List.length_eq_zero_iff.mp hzero] at hcalled ⊢
      exact hcalled.eq_nil
    · obtain ⟨member, hmember⟩ := List.length_eq_one_iff.mp hone
      rw [hmember] at hcalled ⊢
      exact List.perm_singleton.mp hcalled
  rw [lookup?, lookup?, ← List.head?_filter, ← List.head?_filter, hsame]

theorem rel_refl
    (value : Option Json) (name : String) :
    Option.Rel (field name).Widens value value := by
  cases value with
  | none => exact .none
  | some json => exact .some ((field name).refl json)

/-- The members that are asked for, each at most once, have the same values,
widened. -/
theorem fieldsWiden_of_members
    (hkept : List.Forall₂ (MemberWidens field) members kept)
    (hadded : ∀ member ∈ added, member.1 ∉ names)
    (hperm : rest.Perm (kept ++ added)) (hasked : ∀ name ∈ asked, name ∈ names)
    (hunique : asked.all (isUnique members) = true) :
    FieldsWiden asked field (lookup? · members) (lookup? · rest) := by
  intro name hname
  have hothers : ∀ member ∈ added, member.1 ≠ name := by
    rintro member hmember rfl
    exact hadded member hmember (hasked _ hname)
  have hone := List.all_eq_true.mp hunique name hname
  rw [← isUnique_widened hkept] at hone
  dsimp only
  rw [lookup?_of_perm hothers hperm hone]
  exact lookup?_widened hkept name

theorem all_isUnique_widened
    (hkept : List.Forall₂ (MemberWidens field) members kept)
    (hadded : ∀ member ∈ added, member.1 ∉ names)
    (hperm : rest.Perm (kept ++ added))
    (hasked : ∀ name ∈ asked, name ∈ names) :
    asked.all (isUnique rest) = asked.all (isUnique members) := by
  rw [Bool.eq_iff_iff, List.all_eq_true, List.all_eq_true]
  refine forall₂_congr fun name hname => ?_
  have hothers : ∀ member ∈ added, member.1 ≠ name := by
    rintro member hmember rfl
    exact hadded member hmember (hasked _ hname)
  rw [isUnique_of_perm hothers hperm, isUnique_widened hkept]

theorem named?_widened
    (hwidens : RecordWidens names field json wide)
    (hasked : ∀ name ∈ asked, name ∈ names) :
    Option.Rel (FieldsWiden asked field) (named? asked json)
      (named? asked wide) := by
  cases hwidens with
  | same =>
      cases named? asked json with
      | none => exact .none
      | some value => exact .some fun name _ => rel_refl (value name) name
  | array => exact .none
  | @object members kept added rest hkept hadded hperm =>
      have hall := all_isUnique_widened hkept hadded hperm hasked
      cases hunique : asked.all (isUnique members) with
      | false =>
          rw [named?, named?, hall, hunique]
          exact .none
      | true =>
          rw [named?, named?, hall, hunique]
          exact .some (fieldsWiden_of_members hkept hadded hperm hasked hunique)

/-- What is kept aside for a second record is widened, too. -/
theorem divided?_widened
    (hwidens : RecordWidens names field json wide)
    (hasked : ∀ name ∈ asked, name ∈ names) :
    Option.Rel (fun found wideFound =>
        FieldsWiden asked field found.1 wideFound.1 ∧
          RecordWidens names field found.2 wideFound.2)
      (divided? asked json) (divided? asked wide) := by
  cases hwidens with
  | same =>
      cases divided? asked json with
      | none => exact .none
      | some found =>
          exact .some ⟨fun name _ => rel_refl (found.1 name) name,
            .same found.2⟩
  | array => exact .none
  | @object members kept added rest hkept hadded hperm =>
      have hall := all_isUnique_widened hkept hadded hperm hasked
      cases hunique : asked.all (isUnique members) with
      | false =>
          rw [divided?, divided?, hall, hunique]
          exact .none
      | true =>
          rw [divided?, divided?, hall, hunique]
          refine .some ⟨fieldsWiden_of_members hkept hadded hperm hasked
            hunique, ?_⟩
          have hperm := hperm.filter fun member => !asked.contains member.1
          rw [List.filter_append] at hperm
          refine .object ?_ ?_ hperm
          · apply List.rel_filter _ hkept
            rintro member wide ⟨hname, -⟩
            dsimp only
            rw [hname]
          · exact fun member hmember =>
              hadded member (List.mem_of_mem_filter hmember)

theorem fields?_widened
    (hwidens : RecordWidens names field json wide) :
    Option.Rel (FieldsWiden names field) (fields? names json)
      (fields? names wide) := by
  cases hwidens with
  | same =>
      cases fields? names json with
      | none => exact .none
      | some value => exact .some fun name _ => rel_refl (value name) name
  | object hkept hadded hperm =>
      exact named?_widened (.object hkept hadded hperm) fun _ => id
  | array hlength hitems =>
      rw [fields?, fields?, hlength]
      split
      · exact .some fun name _ => lookup?_widened hitems name
      · exact .none

/-! ### Readers of records -/

theorem bind_widened
    {found wideFound : Option β} {relation : β → β → Prop} {next : β → Option α}
    (hfound : Option.Rel relation found wideFound)
    (hnext : ∀ a b, relation a b → next b = next a) :
    (wideFound >>= next) = (found >>= next) := by
  cases hfound with
  | none => rfl
  | some hrelation => exact hnext _ _ hrelation

theorem FieldsWiden.eq
    {value wideValue : String → Option Json}
    (hfields : FieldsWiden names field value wideValue)
    (hname : name ∈ names) (hsame : field name = same) :
    wideValue name = value name := by
  have hrel := hfields name hname
  rw [hsame] at hrel
  generalize value name = given, wideValue name = wideGiven at hrel
  cases hrel with
  | none => rfl
  | some heq => exact congrArg some heq

/-- A record of values that stay as they are. -/
theorem respected_of_same
    {read : (String → Option Json) → Option α}
    (hread : ∀ value wideValue : String → Option Json,
      (∀ name ∈ names, wideValue name = value name) →
      read wideValue = read value) :
    (record names fun _ => same).Respected fun json =>
    fields? names json >>= read := by
  intro json wide hwidens
  refine bind_widened (fields?_widened hwidens) ?_
  intro value wideValue hfields
  exact hread value wideValue fun name hname => hfields.eq hname rfl

end Widening

end FamilyOrders.Json
