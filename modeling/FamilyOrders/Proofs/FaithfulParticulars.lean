import FamilyOrders.Particulars
import FamilyOrders.Proofs.Records

/-!
# Particulars read back

The object that is written for particulars names every field once, and the
fields that may be left out exactly where they are set.  The particulars can be
read back from it, whatever the order of its members, so that no two particulars
are written alike.
-/

namespace FamilyOrders

open FamilyOrders.Json FamilyOrders.Json.Widening

namespace Json

/-- The names of an object's members, in their order. -/
def names : Json → List String
  | .object members => members.map Prod.fst
  | _ => []

def bool? : Json → Option Bool
  | .bool value => some value
  | _ => none

@[simp] theorem lookup?_nil (name : String) : lookup? name [] = none :=
  rfl

theorem lookup?_append
    (name : String) (front back : List (String × Json)) :
    lookup? name (front ++ back) =
      (lookup? name front).or (lookup? name back) := by
  unfold lookup?
  rw [List.find?_append]
  cases front.find? fun member => member.1 == name <;> rfl

end Json

/-! ## Readers -/

def ChildParticulars.fields : List String :=
  ["name", "gender", "dateOfBirth"]

def ChildParticulars.ofJson? (value : Json) : Option ChildParticulars := do
  let field ← fields? ChildParticulars.fields value
  return {
    name := ← required string? (field "name")
    gender := ← optional string? (field "gender")
    dateOfBirth := ← optional string? (field "dateOfBirth") }

def JudgeParticulars.fields : List String :=
  ["judgeTitleAndName", "legalAdvisorName"]

def JudgeParticulars.ofJson? (value : Json) : Option JudgeParticulars := do
  let field ← fields? JudgeParticulars.fields value
  return {
    titleAndName := ← required string? (field "judgeTitleAndName")
    legalAdviser := ← optional string? (field "legalAdvisorName") }

def EmergencyParticulars.fields : List String :=
  ["epoType", "includePhrase", "childrenDescription", "removalAddress",
    "epoEndDateTime", "exclusionRequirement"]

def EmergencyParticulars.ofFields? (field : String → Option Json) :
    Option EmergencyParticulars := do
  return {
    kind := ← required string? (field "epoType")
    includePhrase := ← required bool? (field "includePhrase")
    childrenDescription := ← optional string? (field "childrenDescription")
    removalAddress := ← optional string? (field "removalAddress")
    endsAt := ← required string? (field "epoEndDateTime")
    exclusionRequirement := ← optional string? (field "exclusionRequirement") }

namespace Particulars

/-- The fields that are always written. -/
def commonFields : List String :=
  ["orderType", "orderTitle", "childrenAct", "orderDetails",
    "furtherDirections", "localAuthorityName", "dateOfIssue", "courtName",
      "familyManNumber", "ccdCaseNumber",
    "judgeAndLegalAdvisor", "children", "crest"]

def fields : List String :=
  commonFields ++ EmergencyParticulars.fields ++
    ["draftbackground", "courtseal"]

/-- The fields of an emergency protection order, unless it is another order: its
kind is always written. -/
def emergencyOfFields? (field : String → Option Json) : Option
    (Option EmergencyParticulars) :=
  match field "epoType" with
  | none => some none
  | some _ => (EmergencyParticulars.ofFields? field).map some

def ofJson? (value : Json) : Option Particulars := do
  let field ← fields? fields value
  return {
    order := ← optional (coded? .nullOnly) (field "orderType")
    title := ← required string? (field "orderTitle")
    legalBasis := ← required string? (field "childrenAct")
    details := ← optional string? (field "orderDetails")
    furtherDirections := ← optional string? (field "furtherDirections")
    localAuthorityName := ← optional string? (field "localAuthorityName")
    dateOfIssue := ← optional string? (field "dateOfIssue")
    emergency := ← emergencyOfFields? field
    courtName := ← optional string? (field "courtName")
    familyManNumber := ← optional string? (field "familyManNumber")
    caseNumber := ← optional string? (field "ccdCaseNumber")
    judge := ← optional JudgeParticulars.ofJson? (field "judgeAndLegalAdvisor")
    children := ← required (list? ChildParticulars.ofJson?) (field "children")
    crest := ← optional string? (field "crest")
    draftWatermark := ← optional string? (field "draftbackground")
    courtSeal := ← optional string? (field "courtseal") }

end Particulars

/-! ## Names -/

namespace Particulars

/-- The names under which the fields of an emergency protection order, a
watermark and a seal are written, beside those that always are. -/
def writtenFields (emergency watermark courtSeal : Bool) : List String :=
  ["orderType", "orderTitle", "childrenAct", "orderDetails",
    "furtherDirections", "localAuthorityName", "dateOfIssue"] ++
  (if emergency then EmergencyParticulars.fields else []) ++
  ["courtName", "familyManNumber", "ccdCaseNumber", "judgeAndLegalAdvisor",
    "children", "crest"] ++
  (if watermark then ["draftbackground"] else []) ++
  (if courtSeal then ["courtseal"] else [])

theorem names_presentMember
    (name : String) (text : Option String) :
    (presentMember name text).map Prod.fst =
      if text.isSome then [name] else [] := by
  cases text <;> rfl

theorem names_toJson
    (particulars : Particulars) :
    particulars.toJson.names = writtenFields particulars.emergency.isSome
      particulars.draftWatermark.isSome particulars.courtSeal.isSome := by
  rw [toJson, names, members, writtenFields]
  cases particulars.emergency with
  | none =>
      simp only [List.map_append, names_presentMember]
      rfl
  | some emergency =>
      simp only [List.map_append, names_presentMember]
      rfl

theorem nodup_writtenFields :
    ∀ emergency watermark courtSeal,
      (writtenFields emergency watermark courtSeal).Nodup := by
  decide

/-- Every field is among those written, but for those that may be left out. -/
theorem mem_writtenFields_iff :
    ∀ emergency watermark courtSeal,
      (∀ name ∈ commonFields,
        name ∈ writtenFields emergency watermark courtSeal) ∧
      (∀ name ∈ EmergencyParticulars.fields,
        (name ∈ writtenFields emergency watermark courtSeal ↔
          emergency = true)) ∧
      ("draftbackground" ∈ writtenFields emergency watermark courtSeal ↔
        watermark = true) ∧
      ("courtseal" ∈ writtenFields emergency watermark courtSeal ↔
        courtSeal = true) ∧
      ∀ name ∈ writtenFields emergency watermark courtSeal, name ∈ fields := by
  decide

end Particulars

/-! ## Reading what is written -/

theorem optional_map_string (text : Option String) :
    optional string? (text.map .string) = some text := by
  cases text <;> rfl

theorem lookup?_presentMember
    (name key : String) (text : Option String) :
    lookup? name (presentMember key text) =
      if key = name then text.map .string else none := by
  cases text with
  | none => rw [presentMember, Option.map_none, ite_self]; rfl
  | some text => exact lookup?_cons name key _ []

theorem inverts_childParticulars :
    Inverts ChildParticulars.ofJson? ChildParticulars.toJson where
  reads child := by
    rw [ChildParticulars.ofJson?, ChildParticulars.toJson,
      fields?_of_nodup (by decide : ChildParticulars.fields.Nodup) rfl]
    simp only [Option.bind_eq_bind, Option.bind_some, lookup?_cons,
      String.reduceEq, ↓reduceIte, optional_ofString?]
    rfl
  ne_null _ := nofun

theorem inverts_judgeParticulars :
    Inverts JudgeParticulars.ofJson? JudgeParticulars.toJson where
  reads judge := by
    rw [JudgeParticulars.ofJson?, JudgeParticulars.toJson,
      fields?_of_nodup (by decide : JudgeParticulars.fields.Nodup) rfl]
    simp only [Option.bind_eq_bind, Option.bind_some, lookup?_cons,
      String.reduceEq, ↓reduceIte, optional_ofString?]
    rfl
  ne_null _ := nofun

/-- No other field bears the name of one of an emergency protection order. -/
theorem EmergencyParticulars.lookup?_members
    {name : String} (hname : name ∉ EmergencyParticulars.fields)
    (emergency : EmergencyParticulars) :
    lookup? name emergency.members = none := by
  rw [lookup?, Option.map_eq_none_iff, List.find?_eq_none]
  intro member hmember hfound
  have hmem : member.1 ∈ EmergencyParticulars.fields :=
    List.mem_map_of_mem hmember
  rw [eq_of_beq hfound] at hmem
  exact hname hmem

namespace Particulars

variable (particulars : Particulars)

theorem emergencyOfFields?_members :
    emergencyOfFields? (lookup? · particulars.members) =
      some particulars.emergency := by
  unfold emergencyOfFields? members
  cases particulars.emergency with
  | none =>
      simp only [lookup?_append, lookup?_cons, lookup?_nil,
        lookup?_presentMember, String.reduceEq, ↓reduceIte]
      rfl
  | some emergency =>
      unfold EmergencyParticulars.ofFields? EmergencyParticulars.members
      simp only [lookup?_append, lookup?_cons, lookup?_nil, String.reduceEq,
        ↓reduceIte, Option.some_or, Option.none_or, optional_ofString?]
      rfl

theorem ofJson?_toJson : ofJson? particulars.toJson = some particulars := by
  have hnodup : particulars.toJson.names.Nodup := by
    rw [names_toJson]
    exact nodup_writtenFields _ _ _
  rw [ofJson?, toJson, fields?_of_nodup hnodup rfl]
  rw [Option.bind_eq_bind, Option.bind_some, emergencyOfFields?_members]
  unfold members
  cases hemergency : particulars.emergency with
  | none =>
      simp only [lookup?_append, lookup?_cons, lookup?_nil,
        lookup?_presentMember, String.reduceEq, ↓reduceIte, Option.none_or,
          Option.or_none, optional_ofString?, optional_map_string,
        (inverts_coded .nullOnly).optional, inverts_judgeParticulars.optional,
        required,
        inverts_childParticulars.list?]
      rw [← hemergency]
      rfl
  | some emergency =>
      simp (disch := decide) only [lookup?_append, lookup?_cons, lookup?_nil,
        lookup?_presentMember, EmergencyParticulars.lookup?_members,
          String.reduceEq, ↓reduceIte,
        Option.none_or, Option.or_none, optional_ofString?, optional_map_string,
        (inverts_coded .nullOnly).optional, inverts_judgeParticulars.optional,
        required,
        inverts_childParticulars.list?]
      rw [← hemergency]
      rfl

end Particulars

/-! ## Reading what is widened -/

def ChildParticulars.widening : Widening :=
  record ChildParticulars.fields fun _ => same

def JudgeParticulars.widening : Widening :=
  record JudgeParticulars.fields fun _ => same

theorem ChildParticulars.respected :
    ChildParticulars.widening.Respected ChildParticulars.ofJson? := by
  refine respected_of_same fun value wideValue hsame => ?_
  simp (disch := decide) only [hsame]

theorem JudgeParticulars.respected :
    JudgeParticulars.widening.Respected JudgeParticulars.ofJson? := by
  refine respected_of_same fun value wideValue hsame => ?_
  simp (disch := decide) only [hsame]

namespace Particulars

/-- How a field may be widened: a child or the judge as a record. -/
def field : String → Widening
  | "children" => ChildParticulars.widening.items
  | "judgeAndLegalAdvisor" => JudgeParticulars.widening
  | _ => same

def widening : Widening :=
  record fields field

theorem emergencyOfFields?_congr
    {value wideValue : String → Option Json}
    (hsame :
      ∀ name ∈ EmergencyParticulars.fields, wideValue name = value name) :
    emergencyOfFields? wideValue = emergencyOfFields? value := by
  unfold emergencyOfFields? EmergencyParticulars.ofFields?
  simp (disch := decide) only [hsame]

theorem respected : widening.Respected ofJson? := by
  intro json wide hwidens
  refine bind_widened (fields?_widened hwidens) ?_
  intro value wideValue hfields
  have hjudge := JudgeParticulars.respected.optional
    (hfields "judgeAndLegalAdvisor" (by decide))
  have hchildren :=
    ChildParticulars.respected.list?.required (hfields "children" (by decide))
  have hsame : ∀ name, name ∈ fields ∧ field name = same →
      wideValue name = value name :=
    fun name hname => hfields.eq hname.1 hname.2
  have hemergency :
      emergencyOfFields? wideValue = emergencyOfFields? value := by
    apply emergencyOfFields?_congr
    intro name hname
    have hmem : name ∈ fields :=
      List.mem_append_left _ (List.mem_append_right _ hname)
    refine hsame name ⟨hmem, ?_⟩
    simp only [EmergencyParticulars.fields, List.mem_cons, List.not_mem_nil,
      or_false] at hname
    rcases hname with rfl | rfl | rfl | rfl | rfl | rfl <;> rfl
  simp (disch := (unfold fields commonFields field; simp)) only [hsame, hjudge,
    hchildren, hemergency]

/-! ## What is written -/

/-- The object that is written for the particulars names each of its fields
once, as do those in it, and those that may be left out exactly where they are
set.  The particulars are read back from it, or from any object like it, and
nothing like it is written for others. -/
structure Faithful (particulars : Particulars) : Prop where
  names_nodup : particulars.toJson.names.Nodup
  children_nodup : ∀ child ∈ particulars.children, child.toJson.names.Nodup
  judge_nodup : ∀ judge ∈ particulars.judge, judge.toJson.names.Nodup
  common_written : ∀ name ∈ commonFields, name ∈ particulars.toJson.names
  emergency_iff :
    ∀ name ∈ EmergencyParticulars.fields,
      (name ∈ particulars.toJson.names ↔ particulars.emergency.isSome = true)
  watermark_iff :
    "draftbackground" ∈ particulars.toJson.names ↔
      particulars.draftWatermark.isSome = true
  courtSeal_iff :
    "courtseal" ∈ particulars.toJson.names ↔ particulars.courtSeal.isSome = true
  no_others : ∀ name ∈ particulars.toJson.names, name ∈ fields
  recovered :
    ∀ json, widening.Widens particulars.toJson json →
      ofJson? json = some particulars
  distinguished :
    ∀ other : Particulars, widening.Widens particulars.toJson other.toJson →
      other = particulars

/-- Nothing that particulars say is lost or confused in what is written for
them. -/
theorem faithful (particulars : Particulars) : particulars.Faithful := by
  have hrecovered : ∀ json, widening.Widens particulars.toJson json →
      ofJson? json = some particulars := by
    intro json hwidens
    rw [respected hwidens, ofJson?_toJson]
  obtain ⟨hcommon, hemergency, hwatermark, hseal, hothers⟩ :=
    mem_writtenFields_iff particulars.emergency.isSome
      particulars.draftWatermark.isSome
      particulars.courtSeal.isSome
  rw [← names_toJson] at hcommon hwatermark hseal hothers
  constructor
  case names_nodup =>
    rw [names_toJson]
    exact nodup_writtenFields _ _ _
  case children_nodup =>
    intro child _
    exact (by decide : ChildParticulars.fields.Nodup)
  case judge_nodup =>
    intro judge _
    exact (by decide : JudgeParticulars.fields.Nodup)
  case common_written => exact hcommon
  case emergency_iff =>
    rw [names_toJson]
    exact hemergency
  case watermark_iff => exact hwatermark
  case courtSeal_iff => exact hseal
  case no_others => exact hothers
  case recovered => exact hrecovered
  case distinguished =>
    intro other hwidens
    have hother := hrecovered other.toJson hwidens
    rw [ofJson?_toJson] at hother
    exact Option.some.inj hother

/-- Texts that are written apart: an empty one and none. -/
example :
    ofJson? ({ crest := some "", courtSeal := some "" } : Particulars).toJson =
      some { crest := some "", courtSeal := some "" } := by
  decide

end Particulars

end FamilyOrders
