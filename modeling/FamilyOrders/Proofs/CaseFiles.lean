import FamilyOrders.Case.Reading
import FamilyOrders.Proofs.PrintedDates
import FamilyOrders.Proofs.Records

/-!
# Case files read back

A case is read back from the object that is written for it.  Whatever object a
case is read from, the same case is read when the members of the object, or of a
record in it, are put in another order or joined by members that mean nothing
there.
-/

namespace FamilyOrders

open FamilyOrders.Calendar FamilyOrders.Json FamilyOrders.Json.Widening

/-! ### Reading what is written -/

theorem inverts_date :
    Inverts dateOfJson? dateJson where
  reads date := by
    rw [dateOfJson?, dateJson, string?, Option.bind_some, date.ofText?_text]
  ne_null _ := nofun

theorem inverts_moment :
    Inverts momentOfJson? momentJson where
  reads moment := by
    rw [momentOfJson?, momentJson, string?, Option.bind_some,
      moment.ofText?_text]
  ne_null _ := nofun

theorem inverts_uint64 :
    Inverts uint64OfJson? fun n => .natural n.toNat where
  reads n := by
    rw [uint64OfJson?, natBelow?, dif_pos n.toNat_lt]
    rfl
  ne_null _ := nofun

theorem inverts_uint32 :
    Inverts uint32OfJson? fun n => .natural n.toNat where
  reads n := by
    rw [uint32OfJson?, natBelow?, dif_pos n.toNat_lt]
    rfl
  ne_null _ := nofun

theorem inverts_party :
    Inverts Party.ofJson? Party.toJson where
  reads party := by
    rw [Party.ofJson?, Party.toJson,
      fields?_of_nodup (by decide : partyFields.Nodup) rfl]
    simp only [Option.bind_eq_bind, Option.bind_some, lookup?_cons,
      String.reduceEq, ↓reduceIte, optional_ofString?, inverts_date.optional]
    rfl
  ne_null _ := nofun

theorem inverts_child :
    Inverts Child.ofJson? Child.toJson where
  reads child := by
    have hparty :
        Party.ofChildJson? (.object [("party", child.party.toJson)]) =
          some child.party :=
      inverts_party.reads child.party
    rw [Child.ofJson?, Child.toJson,
      fields?_of_nodup (by decide : ["id", "value"].Nodup) rfl]
    simp only [Option.bind_eq_bind, Option.bind_some, lookup?_cons,
      String.reduceEq, ↓reduceIte, required, hparty]
    rfl
  ne_null _ := nofun

theorem inverts_address :
    Inverts Address.ofJson? Address.toJson where
  reads address := by
    rw [Address.ofJson?, Address.toJson,
      fields?_of_nodup (by decide : addressFields.Nodup) rfl]
    simp only [Option.bind_eq_bind, Option.bind_some, lookup?_cons,
      String.reduceEq, ↓reduceIte, optional_ofString?]
    rfl
  ne_null _ := nofun

theorem inverts_document :
    Inverts DocumentReference.ofJson? DocumentReference.toJson where
  reads document := by
    rw [DocumentReference.ofJson?, DocumentReference.toJson,
      fields?_of_nodup (by decide : documentFields.Nodup) rfl]
    rfl
  ne_null _ := nofun

theorem Judge.ofFields?_members
    (wrapping : Wrapping) (judge : Judge) (others : List (String × Json)) :
    Judge.ofFields? wrapping (lookup? · (judge.members ++ others)) =
      some judge := by
  rw [Judge.ofFields?, Judge.members]
  simp only [List.cons_append, lookup?_cons, String.reduceEq, ↓reduceIte,
    optional_ofString?, (inverts_coded wrapping).optional]
  rfl

theorem inverts_judge :
    Inverts Judge.ofJson? Judge.toJson where
  reads judge := by
    rw [Judge.ofJson?, Judge.toJson,
      fields?_of_nodup (by decide : judgeFields.Nodup) rfl]
    have hjudge := judge.ofFields?_members .nullOnly []
    rw [List.append_nil] at hjudge
    exact hjudge
  ne_null _ := nofun

theorem inverts_hearingJudge
    (wrapping : Wrapping) :
    Inverts (HearingJudge.ofJson? wrapping) HearingJudge.toJson where
  reads hearing := by
    have hnodup :
        (judgeFields ++ ["legalAdvisorName", "useAllocatedJudge"]).Nodup := by
          decide
    have hothers : (hearing.judge.members ++
        [("legalAdvisorName", ofString? hearing.legalAdviser),
          ("useAllocatedJudge", ofOption ofCoded hearing.useAllocated)]).filter
        (fun member =>
          !(["legalAdvisorName", "useAllocatedJudge"].contains member.1)) =
            hearing.judge.members :=
      rfl
    have hjudge := hearing.judge.ofFields?_members .nullOrEmpty []
    rw [List.append_nil] at hjudge
    rw [HearingJudge.ofJson?, HearingJudge.toJson, divided?_of_nodup hnodup rfl,
      hothers]
    simp only [Option.bind_eq_bind, Option.bind_some]
    rw [named?_of_nodup (by decide : judgeFields.Nodup) rfl, Option.bind_some,
      hjudge]
    simp only [Option.bind_some, Judge.members, List.cons_append,
      List.nil_append, lookup?_cons, String.reduceEq, ↓reduceIte,
        optional_ofString?, (inverts_coded wrapping).optional]
    rfl
  ne_null _ := nofun

theorem inverts_ticked :
    Inverts tickedOfJson? tickedJson where
  reads positions := by
    rw [tickedOfJson?, tickedJson,
      fields?_of_nodup (by decide : ["selected"].Nodup) rfl]
    exact inverts_uint64.list? positions
  ne_null _ := nofun

theorem Answers.ofFields?_members
    (wrapping : Wrapping) (answers : Answers) :
    Answers.ofFields? wrapping (lookup? · answers.members) = some answers := by
  rw [Answers.ofFields?, Answers.members]
  simp only [lookup?_cons, String.reduceEq, ↓reduceIte, optional_ofString?,
    (inverts_coded wrapping).optional, inverts_date.optional,
    inverts_moment.optional,
    inverts_uint32.optional, (inverts_hearingJudge wrapping).optional,
      inverts_address.optional,
    inverts_document.optional, inverts_ticked.optional]
  rfl

theorem Answers.names_members
    (answers : Answers) :
    answers.members.map Prod.fst = answerFields :=
  rfl

theorem nodup_fields :
    (caseFields ++ answerFields).Nodup := by
  decide +kernel

theorem CaseFile.ofJson?_toJson
    (file : CaseFile) :
    CaseFile.ofJson? file.toJson = some file := by
  have hanswers : named? answerFields (.object file.answers.members) =
      some (lookup? · file.answers.members) :=
    named?_of_nodup nodup_fields.of_append_right file.answers.names_members
      answerFields
  rw [CaseFile.ofJson?, CaseFile.toJson, divided?_append nodup_fields rfl rfl]
  simp only [Option.bind_eq_bind, Option.bind_some, hanswers,
    file.answers.ofFields?_members]
  simp only [lookup?_cons, List.cons_append, String.reduceEq, ↓reduceIte,
    withDefault, inverts_uint64.reads, optional_ofString?, inverts_child.list?,
      inverts_judge.optional]
  rfl

/-! ### Reading what is widened -/

def Party.widening : Widening :=
  record partyFields fun _ => same

def Child.valueField : String → Widening
  | "party" => Party.widening
  | _ => same

def Child.field : String → Widening
  | "value" => record ["party"] Child.valueField
  | _ => same

def Child.widening : Widening :=
  record ["id", "value"] Child.field

def Address.widening : Widening :=
  record addressFields fun _ => same

def DocumentReference.widening : Widening :=
  record documentFields fun _ => same

def Judge.widening : Widening :=
  record judgeFields fun _ => same

def HearingJudge.widening : Widening :=
  record (["legalAdvisorName", "useAllocatedJudge"] ++ judgeFields) fun _ =>
    same

def tickedWidening : Widening :=
  record ["selected"] fun _ => same

/-- How the field of a case may be widened: a record within it as a record. -/
def CaseFile.field : String → Widening
  | "children1" => Child.widening.items
  | "allocatedJudge" => Judge.widening
  | "judgeAndLegalAdvisor" => HearingJudge.widening
  | "manageOrdersEpoRemovalAddress" => Address.widening
  | "manageOrdersPowerOfArrest" | "manageOrdersUploadOrderFile" =>
    DocumentReference.widening
  | "childrenSelector" => tickedWidening
  | _ => same

def CaseFile.widening : Widening :=
  record (caseFields ++ answerFields) CaseFile.field

theorem Party.respected :
    Party.widening.Respected Party.ofJson? := by
  refine respected_of_same fun value wideValue hsame => ?_
  simp (disch := decide) only [hsame]

theorem Address.respected :
    Address.widening.Respected Address.ofJson? := by
  refine respected_of_same fun value wideValue hsame => ?_
  simp (disch := decide) only [hsame]

theorem DocumentReference.respected :
    DocumentReference.widening.Respected DocumentReference.ofJson? := by
  refine respected_of_same fun value wideValue hsame => ?_
  simp (disch := decide) only [hsame]

theorem Judge.ofFields?_congr
    (wrapping : Wrapping) {value wideValue : String → Option Json}
    (hsame : ∀ name ∈ judgeFields, wideValue name = value name) :
    Judge.ofFields? wrapping wideValue = Judge.ofFields? wrapping value := by
  unfold Judge.ofFields?
  simp (disch := decide) only [hsame]

theorem Judge.respected :
    Judge.widening.Respected Judge.ofJson? :=
  respected_of_same fun _ _ => Judge.ofFields?_congr .nullOnly

theorem respected_ticked :
    tickedWidening.Respected tickedOfJson? := by
  refine respected_of_same fun value wideValue hsame => ?_
  simp (disch := decide) only [hsame]

theorem Child.respected :
    Child.widening.Respected Child.ofJson? := by
  have hvalue :
      (record ["party"] Child.valueField).Respected Party.ofChildJson? := by
    intro json wide hwidens
    refine bind_widened (fields?_widened hwidens) ?_
    intro value wideValue hfields
    exact Party.respected.required (hfields "party" (by decide))
  intro json wide hwidens
  refine bind_widened (fields?_widened hwidens) ?_
  intro value wideValue hfields
  have hid : wideValue "id" = value "id" := hfields.eq (by decide) rfl
  have hparty := hvalue.required (hfields "value" (by decide))
  rw [hid, hparty]

theorem HearingJudge.respected
    (wrapping : Wrapping) :
    HearingJudge.widening.Respected (HearingJudge.ofJson? wrapping) := by
  intro json wide hwidens
  refine bind_widened
    (divided?_widened hwidens fun _ => List.mem_append_left _) ?_
  rintro ⟨value, others⟩ ⟨wideValue, wideOthers⟩ ⟨hfields, hothers⟩
  have hadviser : wideValue "legalAdvisorName" = value "legalAdvisorName" :=
    hfields.eq (by decide) rfl
  have huse : wideValue "useAllocatedJudge" = value "useAllocatedJudge" :=
    hfields.eq (by decide) rfl
  dsimp only
  rw [hadviser, huse]
  refine bind_widened
    (named?_widened hothers fun _ => List.mem_append_right _) ?_
  intro given wideGiven hgiven
  rw [Judge.ofFields?_congr .nullOrEmpty fun name hname => hgiven.eq hname rfl]

theorem Answers.ofFields?_widened
    (wrapping : Wrapping) {value wideValue : String → Option Json}
    (hfields : FieldsWiden answerFields CaseFile.field value wideValue) :
    Answers.ofFields? wrapping wideValue =
      Answers.ofFields? wrapping value := by
  have hjudge := (HearingJudge.respected wrapping).optional
    (hfields "judgeAndLegalAdvisor" (by decide))
  have haddress := Address.respected.optional
    (hfields "manageOrdersEpoRemovalAddress" (by decide))
  have harrest := DocumentReference.respected.optional
    (hfields "manageOrdersPowerOfArrest" (by decide))
  have hupload := DocumentReference.respected.optional
    (hfields "manageOrdersUploadOrderFile" (by decide))
  have hticked :=
    respected_ticked.optional (hfields "childrenSelector" (by decide))
  have hsame : ∀ name, name ∈ answerFields ∧ CaseFile.field name = same →
      wideValue name = value name :=
    fun name hname => hfields.eq hname.1 hname.2
  unfold Answers.ofFields?
  simp (disch := (unfold answerFields CaseFile.field; simp)) only [hsame,
    hjudge, haddress, harrest, hupload, hticked]

namespace CaseFile

theorem respected :
    CaseFile.widening.Respected CaseFile.ofJson? := by
  intro json wide hwidens
  refine bind_widened
    (divided?_widened hwidens fun _ => List.mem_append_left _) ?_
  rintro ⟨value, others⟩ ⟨wideValue, wideOthers⟩ ⟨hfields, hothers⟩
  have hchildren :=
    Child.respected.list?.withDefault [] (hfields "children1" (by decide))
  have hjudge := Judge.respected.optional (hfields "allocatedJudge" (by decide))
  have hsame : ∀ name, name ∈ caseFields ∧ CaseFile.field name = same →
      wideValue name = value name :=
    fun name hname => hfields.eq hname.1 hname.2
  have hanswers :
      (named? answerFields wideOthers >>= Answers.ofFields? .nullOrEmpty) =
        (named? answerFields others >>= Answers.ofFields? .nullOrEmpty) :=
    bind_widened (named?_widened hothers fun _ => List.mem_append_right _) fun _
      _ =>
      Answers.ofFields?_widened .nullOrEmpty
  simp (disch := (unfold caseFields CaseFile.field; simp)) only [hsame,
    hchildren, hjudge]
  iterate 6 refine bind_congr fun _ => ?_
  rw [← bind_assoc, hanswers, bind_assoc]

/-- Reading undoes writing, and it does not see how a value is widened. -/
theorem ofJson?_faithful :
    (∀ file : CaseFile, ofJson? file.toJson = some file) ∧
      ∀ json widened, CaseFile.widening.Widens json widened →
        ofJson? widened = ofJson? json :=
  ⟨ofJson?_toJson, fun _ _ hwidens => CaseFile.respected hwidens⟩

/-- A case with a date far away and within a leap second. -/
def swansea : CaseFile where
  id := 1234567890123456
  children := [{
    id := "c1"
    party := { firstName := some "Alex", gender := some "Boy" } }]
  answers := {
    order := some .interimCare
    approvalMoment := some {
      date := ⟨12021, 5, 5, by decide, by decide⟩
      time := ⟨23, 59, 59, 1500000000, by decide, by decide⟩ }
    judge := some {
      judge := { title := some .herHonourJudge, lastName := some "White" }
      legalAdviser := some "Jo Bell" } }

/-- The same as it is sent, with every record's object made from its members by
`object`. -/
def swanseaJson (object : List (String × Json) → Json) : Json :=
  object [
    ("id", .natural 1234567890123456),
    ("children1", .array [object [
      ("id", .string "c1"),
      ("value", object [
        ("party", object [("firstName", .string "Alex"),
          ("gender", .string "Boy")])])]]),
    ("manageOrdersType", .string "C33_INTERIM_CARE_ORDER"),
    ("manageOrdersApprovalDateTime", .string "+12021-06-05T23:59:60.5"),
    ("judgeAndLegalAdvisor", object [
      ("judgeTitle", .object [("HER_HONOUR_JUDGE", .null)]),
      ("judgeLastName", .string "White"),
      ("legalAdvisorName", .string "Jo Bell")])]

/-- The members in reverse, behind one that is no field of a case. -/
def crowded (members : List (String × Json)) : Json :=
  .object (("state", .null) :: members.reverse)

theorem crowded_widens
    {names : List String} {field : String → Widening}
    {members kept : List (String × Json)} (hstate : "state" ∉ names)
    (hkept : List.Forall₂ (MemberWidens field) members kept) :
    (record names field).Widens (.object members) (crowded kept) := by
  have hadded : ∀ member ∈ [("state", Json.null)], member.1 ∉ names := by
    intro member hmember
    rw [List.mem_singleton.mp hmember]
    exact hstate
  have hperm :
      (("state", Json.null) :: kept.reverse).Perm
      (kept ++ [("state", Json.null)]) :=
    ((List.reverse_perm kept).cons _).trans
    (List.perm_append_singleton _ _).symm
  exact .object hkept hadded hperm

theorem swansea_crowded :
    CaseFile.widening.Widens (swanseaJson .object) (swanseaJson crowded) ∧
      ofJson? (swanseaJson .object) = some swansea ∧
      ofJson? (swanseaJson crowded) = some swansea ∧
      ofJson? swansea.toJson = some swansea := by
  have hwidens :
      CaseFile.widening.Widens (swanseaJson .object) (swanseaJson crowded) := by
    apply crowded_widens (by decide)
    refine .cons ⟨rfl, rfl⟩ (.cons ⟨rfl, ?_⟩ (.cons ⟨rfl, rfl⟩ (.cons ⟨rfl, rfl⟩
      (.cons ⟨rfl, ?_⟩ .nil))))
    · refine .array (.cons ?_ .nil)
      apply crowded_widens (by decide)
      refine .cons ⟨rfl, rfl⟩ (.cons ⟨rfl, ?_⟩ .nil)
      apply crowded_widens (by decide)
      refine .cons ⟨rfl, ?_⟩ .nil
      apply crowded_widens (by decide)
      exact .cons ⟨rfl, rfl⟩ (.cons ⟨rfl, rfl⟩ .nil)
    · apply crowded_widens (by decide)
      exact .cons ⟨rfl, rfl⟩ (.cons ⟨rfl, rfl⟩ (.cons ⟨rfl, rfl⟩ .nil))
  have hread : ofJson? (swanseaJson .object) = some swansea := by decide
  exact ⟨hwidens, hread, (ofJson?_faithful.2 _ _ hwidens).trans hread,
    ofJson?_faithful.1 swansea⟩

end CaseFile

end FamilyOrders
