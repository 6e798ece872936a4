import FamilyOrders.Creation.Basic
import FamilyOrders.Proofs.Actions
import Mathlib.Data.List.Induction
import Mathlib.Data.List.Nodup

/-!
# The registry

What a registry accepts and finds, and how its holder looks things up.
-/

namespace FamilyOrders

/-! ## Registration

A registry is built exactly from strategies that fit the catalogue, and then
every look-up gives the strategy that was registered for the order.  Otherwise
the first fault is reported: an order that two strategies are for, or else the
first order of the catalogue that the strategies do not suit. -/

theorem Order.mem_all
    (order : Order) :
    order ∈ Order.all :=
  Coded.mem_values order

variable {seen orders drafted collected : List Order} {order : Order}
  {error : OrderError}

/-! ### Repeated orders -/

/-- The order stands at the earliest position of the list whose order occurs
before it. -/
def IsFirstRepeated (orders : List Order) (order : Order) : Prop :=
  ∃ earlier later, orders = earlier ++ order :: later ∧ order ∈ earlier ∧
  earlier.Nodup

theorem firstRepeated_cons_of_notMem
    (hfresh : order ∉ seen) (later : List Order) :
    firstRepeated seen (order :: later) = firstRepeated (order :: seen) later :=
  if_neg hfresh

/-- Orders that differ from each other and from those seen are passed, and are
seen then. -/
theorem firstRepeated_append
    {earlier : List Order} (hnodup : earlier.Nodup)
    (hfresh : ∀ passed ∈ earlier, passed ∉ seen) (later : List Order) :
    firstRepeated seen (earlier ++ later) =
      firstRepeated (earlier.reverse ++ seen) later := by
  induction earlier generalizing seen with
  | nil => rfl
  | cons first rest ih =>
      obtain ⟨hfirst, hrest⟩ := List.nodup_cons.mp hnodup
      obtain ⟨hnew, hothers⟩ := List.forall_mem_cons.mp hfresh
      have hstill : ∀ passed ∈ rest, passed ∉ first :: seen := by
        intro passed hpassed hmem
        rcases List.mem_cons.mp hmem with rfl | hmem
        · exact hfirst hpassed
        · exact hothers passed hpassed hmem
      rw [List.cons_append, firstRepeated_cons_of_notMem hnew, ih hrest hstill,
        List.reverse_cons, List.append_assoc]
      rfl

theorem firstRepeated_of_nodup
    (hnodup : orders.Nodup) :
    firstRepeated [] orders = none := by
  have hfresh : ∀ passed ∈ orders, passed ∉ ([] : List Order) :=
    fun _ _ => List.not_mem_nil
  have hpassed := firstRepeated_append hnodup hfresh []
  rw [List.append_nil] at hpassed
  rw [hpassed]
  rfl

theorem firstRepeated_of_isFirstRepeated
    (hrepeated : IsFirstRepeated orders order) :
    firstRepeated [] orders = some order := by
  obtain ⟨earlier, later, rfl, hmem, hnodup⟩ := hrepeated
  rw [firstRepeated_append hnodup fun _ _ => List.not_mem_nil]
  exact if_pos (List.mem_append_left _ (List.mem_reverse.mpr hmem))

theorem nodup_or_isFirstRepeated
    (orders : List Order) :
    orders.Nodup ∨ ∃ order, IsFirstRepeated orders order := by
  induction orders using List.reverseRecOn with
  | nil => exact .inl List.nodup_nil
  | append_singleton earlier last ih =>
      rcases ih with hnodup | ⟨order, before, after, rfl, hmem, hbefore⟩
      · by_cases hlast : last ∈ earlier
        · exact .inr ⟨last, earlier, [], rfl, hlast, hnodup⟩
        · refine .inl (List.nodup_append.mpr ⟨hnodup, List.nodup_singleton last,
            ?_⟩)
          rintro passed hpassed added hadded rfl
          rw [List.mem_singleton.mp hadded] at hpassed
          exact hlast hpassed
      · refine .inr ⟨order, before, after ++ [last], ?_, hmem, hbefore⟩
        rw [List.append_assoc, List.cons_append]

theorem firstRepeated_eq_none_iff :
    firstRepeated [] orders = none ↔ orders.Nodup := by
  refine ⟨fun hnone => ?_, firstRepeated_of_nodup⟩
  rcases nodup_or_isFirstRepeated orders with hnodup | ⟨order, hrepeated⟩
  · exact hnodup
  · rw [firstRepeated_of_isFirstRepeated hrepeated] at hnone
    cases hnone

theorem firstRepeated_eq_some_iff :
    firstRepeated [] orders = some order ↔ IsFirstRepeated orders order := by
  refine ⟨fun hsome => ?_, firstRepeated_of_isFirstRepeated⟩
  rcases nodup_or_isFirstRepeated orders with hnodup | ⟨found, hrepeated⟩
  · rw [firstRepeated_of_nodup hnodup] at hsome
    cases hsome
  · rw [firstRepeated_of_isFirstRepeated hrepeated] at hsome
    cases hsome
    exact hrepeated

/-! ### Orders of the catalogue -/

/-- A digital order has a drafter, and an order that is uploaded has no
strategy. -/
def Suits (drafted collected : List Order) (order : Order) : Prop :=
  (order ∈ drafted ↔ order.source = .digital) ∧
  (order ∈ collected → order.source = .digital)

/-- The error that tells how the strategies do not suit the order. -/
inductive Misfits (drafted collected : List Order) (order : Order) :
    OrderError → Prop
  | missing (hsource : order.source = .digital) (hdrafted : order ∉ drafted) :
      Misfits drafted collected order (.missingGenerator order)
  | drafted (hsource : order.source = .manualUpload)
      (hdrafted : order ∈ drafted) :
      Misfits drafted collected order (.unexpectedStrategy order .drafter)
  | collected (hsource : order.source = .manualUpload)
      (hdrafted : order ∉ drafted) (hcollected : order ∈ collected) :
      Misfits drafted collected order (.unexpectedStrategy order .collector)

theorem misfit_eq_some_iff :
    misfit drafted collected order = some error ↔
      Misfits drafted collected order error := by
  constructor
  · intro hmisfit
    unfold misfit at hmisfit
    split at hmisfit
    · rename_i hsource
      split at hmisfit
      · cases hmisfit
      · rename_i hdrafted
        cases hmisfit
        exact .missing hsource hdrafted
    · rename_i hsource
      split at hmisfit
      · rename_i hdrafted
        cases hmisfit
        exact .drafted hsource hdrafted
      · rename_i hdrafted
        split at hmisfit
        · rename_i hcollected
          cases hmisfit
          exact .collected hsource hdrafted hcollected
        · cases hmisfit
  · intro hmisfits
    cases hmisfits with
    | missing hsource hdrafted => simp only [misfit, hsource, if_neg hdrafted]
    | drafted hsource hdrafted => simp only [misfit, hsource, if_pos hdrafted]
    | collected hsource hdrafted hcollected =>
        simp only [misfit, hsource, if_neg hdrafted, if_pos hcollected]

theorem misfit_eq_none_iff :
    misfit drafted collected order = none ↔ Suits drafted collected order := by
  unfold misfit Suits
  cases hsource : order.source with
  | digital => by_cases hdrafted : order ∈ drafted <;> simp [hdrafted]
  | manualUpload =>
      by_cases hdrafted : order ∈ drafted <;> by_cases hcollected :
        order ∈ collected <;>
        simp [hdrafted, hcollected]

/-! ### Registration -/

/-- The orders that drafters and collectors are registered for fit the
catalogue. -/
structure Fits (drafted collected : List Order) : Prop where
  drafted_nodup : drafted.Nodup
  drafted_iff : ∀ order, order ∈ drafted ↔ order.source = .digital
  collected_nodup : collected.Nodup
  collected_digital : ∀ order ∈ collected, order.source = .digital

/-- The first fault in a registration. -/
inductive FirstFault (drafted collected : List Order) : OrderError → Prop
  | drafters {order : Order} (hrepeated : IsFirstRepeated drafted order) :
      FirstFault drafted collected (.duplicateGenerator order)
  | collectors {order : Order} (hdrafted : drafted.Nodup)
      (hrepeated : IsFirstRepeated collected order) :
      FirstFault drafted collected (.duplicateCollector order)
  | catalogue {order : Order} {earlier later : List Order} {error : OrderError}
      (hdrafted : drafted.Nodup) (hcollected : collected.Nodup)
      (hall : Order.all = earlier ++ order :: later)
      (hearlier : ∀ suited ∈ earlier, Suits drafted collected suited)
      (hmisfits : Misfits drafted collected order error) :
      FirstFault drafted collected error

theorem FirstFault.isConfiguration
    (hfault : FirstFault drafted collected error) :
    error.isConfiguration = true := by
  cases hfault with
  | drafters => rfl
  | collectors => rfl
  | catalogue _ _ _ _ hmisfits => cases hmisfits <;> rfl

theorem registrationError_eq_none_iff :
    registrationError drafted collected = none ↔ Fits drafted collected := by
  rw [registrationError, Option.or_eq_none_iff, Option.or_eq_none_iff,
    Option.map_eq_none_iff, Option.map_eq_none_iff, firstRepeated_eq_none_iff,
      firstRepeated_eq_none_iff,
    List.findSome?_eq_none_iff]
  simp only [misfit_eq_none_iff]
  constructor
  · rintro ⟨hdrafted, hcollected, hsuits⟩
    exact ⟨hdrafted, fun order => (hsuits order order.mem_all).1, hcollected,
      fun order => (hsuits order order.mem_all).2⟩
  · rintro ⟨hdrafted, hiff, hcollected, hdigital⟩
    exact ⟨hdrafted, hcollected, fun order _ => ⟨hiff order, hdigital order⟩⟩

theorem registrationError_eq_some_iff :
    registrationError drafted collected = some error ↔
      FirstFault drafted collected error := by
  unfold registrationError
  constructor
  · intro herror
    cases hdrafted : firstRepeated [] drafted with
    | some order =>
        rw [hdrafted] at herror
        cases herror
        exact .drafters (firstRepeated_eq_some_iff.mp hdrafted)
    | none =>
        rw [hdrafted, Option.map_none, Option.none_or] at herror
        cases hcollected : firstRepeated [] collected with
        | some order =>
            rw [hcollected] at herror
            cases herror
            exact .collectors (firstRepeated_eq_none_iff.mp hdrafted)
              (firstRepeated_eq_some_iff.mp hcollected)
        | none =>
            rw [hcollected, Option.map_none, Option.none_or,
              List.findSome?_eq_some_iff] at herror
            obtain ⟨earlier, order, later, hall, hmisfit, hearlier⟩ := herror
            exact .catalogue (firstRepeated_eq_none_iff.mp hdrafted)
              (firstRepeated_eq_none_iff.mp hcollected) hall
              (fun suited hsuited =>
                misfit_eq_none_iff.mp (hearlier suited hsuited))
              (misfit_eq_some_iff.mp hmisfit)
  · intro hfault
    cases hfault with
    | drafters hrepeated =>
        rw [firstRepeated_of_isFirstRepeated hrepeated]
        rfl
    | collectors hdrafted hrepeated =>
        rw [firstRepeated_of_nodup hdrafted,
          firstRepeated_of_isFirstRepeated hrepeated]
        rfl
    | catalogue hdrafted hcollected hall hearlier hmisfits =>
        rw [firstRepeated_of_nodup hdrafted, firstRepeated_of_nodup hcollected,
          Option.map_none, Option.none_or, Option.map_none, Option.none_or,
            List.findSome?_eq_some_iff]
        exact ⟨_, _, _, hall, misfit_eq_some_iff.mpr hmisfits,
          fun suited hsuited =>
          misfit_eq_none_iff.mpr (hearlier suited hsuited)⟩

theorem Fits.perm
    {otherDrafted otherCollected : List Order} (hfits : Fits drafted collected)
    (hdrafted : otherDrafted.Perm drafted)
    (hcollected : otherCollected.Perm collected) :
    Fits otherDrafted otherCollected where
  drafted_nodup := hdrafted.nodup_iff.mpr hfits.drafted_nodup
  drafted_iff order := hdrafted.mem_iff.trans (hfits.drafted_iff order)
  collected_nodup := hcollected.nodup_iff.mpr hfits.collected_nodup
  collected_digital order horder :=
    hfits.collected_digital order (hcollected.mem_iff.mp horder)

namespace Registry

variable {drafters otherDrafters : List Drafter}
  {collectors otherCollectors : List Collector} {registry : Registry}

theorem build_eq_ok_iff :
    build drafters collectors = .ok registry ↔
      Fits (drafters.map (·.order)) (collectors.map (·.order)) ∧
        registry = { drafters, collectors } := by
  unfold build
  rw [← registrationError_eq_none_iff]
  cases registrationError (drafters.map (·.order))
    (collectors.map (·.order)) with
  | none => simp [eq_comm]
  | some error => exact iff_of_false nofun fun hbuilt => nomatch hbuilt.1

theorem build_eq_error_iff :
    build drafters collectors = .error error ↔
      FirstFault (drafters.map (·.order)) (collectors.map (·.order)) error := by
  unfold build
  rw [← registrationError_eq_some_iff]
  cases registrationError (drafters.map (·.order))
    (collectors.map (·.order)) with
  | none => exact iff_of_false nofun nofun
  | some error => simp

/-! ### Look-ups -/

theorem find?_eq_some_iff_of_nodup
    {strategies : List α} {order : α → Order}
    (hnodup : (strategies.map order).Nodup) {sought : Order} {strategy : α} :
    strategies.find? (order · = sought) = some strategy ↔
      strategy ∈ strategies ∧ order strategy = sought := by
  constructor
  · intro hfound
    have hsought := List.find?_some hfound
    exact ⟨List.mem_of_find?_eq_some hfound, of_decide_eq_true hsought⟩
  · rintro ⟨hmem, rfl⟩
    cases hfound : strategies.find? (order · = order strategy) with
    | none =>
        have hnone := List.find?_eq_none.mp hfound strategy hmem
        exact absurd (decide_eq_true rfl) hnone
    | some found =>
        have hfoundMem := List.mem_of_find?_eq_some hfound
        have hsame := List.find?_some hfound
        rw [List.inj_on_of_nodup_map hnodup hfoundMem hmem
          (of_decide_eq_true hsame)]

theorem find?_perm
    {strategies others : List α} {order : α → Order}
    (hnodup : (strategies.map order).Nodup)
    (hperm : others.Perm strategies) (sought : Order) :
    others.find? (order · = sought) = strategies.find? (order · = sought) := by
  have hothers : (others.map order).Nodup :=
    (hperm.map order).nodup_iff.mpr hnodup
  ext strategy
  rw [find?_eq_some_iff_of_nodup hothers, find?_eq_some_iff_of_nodup hnodup,
    hperm.mem_iff]

theorem drafter_eq_ok_iff
    {drafter : Drafter} :
    registry.drafter order = .ok drafter ↔
      registry.drafter? order = some drafter := by
  unfold Registry.drafter
  cases registry.drafter? order with
  | none => exact iff_of_false nofun nofun
  | some found => simp

/-- The registry gives each order the strategies that were registered for it,
and no others. -/
structure Serves (registry : Registry) (drafters : List Drafter)
    (collectors : List Collector) : Prop where
  drafter_iff :
    ∀ order drafter,
      registry.drafter order = .ok drafter ↔
        drafter ∈ drafters ∧ drafter.order = order
  drafter_digital :
    ∀ order, order.source = .digital →
      ∃ drafter, registry.drafter order = .ok drafter
  drafter_manualUpload :
    ∀ order, order.source = .manualUpload →
      registry.drafter order = .error (.missingGenerator order)
  hasDrafter_iff :
    ∀ order, registry.hasDrafter order = true ↔ order.source = .digital
  collector_iff :
    ∀ order collector,
      registry.collector? order = some collector ↔
        collector ∈ collectors ∧ collector.order = order
  collector_none_iff :
    ∀ order,
      registry.collector? order = none ↔
        ∀ collector ∈ collectors, collector.order ≠ order

theorem drafter?_isSome_iff
    (hfits : Fits (drafters.map (·.order)) (collectors.map (·.order)))
    (order : Order) :
    (drafter? { drafters, collectors } order).isSome = true ↔
    order.source = .digital := by
  rw [← hfits.drafted_iff order, drafter?, List.find?_isSome, List.mem_map]
  simp only [decide_eq_true_eq]

theorem serves_of_build
    (hbuild : build drafters collectors = .ok registry) :
    registry.Serves drafters collectors := by
  obtain ⟨hfits, rfl⟩ := build_eq_ok_iff.mp hbuild
  have hsome := drafter?_isSome_iff hfits
  constructor
  case drafter_iff =>
    intro order drafter
    rw [drafter_eq_ok_iff, drafter?,
      find?_eq_some_iff_of_nodup hfits.drafted_nodup]
  case drafter_digital =>
    intro order hdigital
    obtain ⟨drafter, hdrafter⟩ :=
      Option.isSome_iff_exists.mp ((hsome order).mpr hdigital)
    exact ⟨drafter, drafter_eq_ok_iff.mpr hdrafter⟩
  case drafter_manualUpload =>
    intro order hmanual
    have hnone : drafter? { drafters, collectors } order = none := by
      rw [← Option.not_isSome_iff_eq_none, hsome, hmanual]
      exact nofun
    rw [drafter, hnone]
  case hasDrafter_iff => exact hsome
  case collector_iff =>
    intro order collector
    rw [collector?, find?_eq_some_iff_of_nodup hfits.collected_nodup]
  case collector_none_iff =>
    intro order
    rw [collector?, List.find?_eq_none]
    simp only [decide_eq_true_eq]

/-- When strategies are accepted, what they serve, and what is reported
otherwise. -/
structure RegistrationLaw (drafters : List Drafter)
    (collectors : List Collector) : Prop where
  builds_iff :
    (∃ registry, build drafters collectors = .ok registry) ↔
      Fits (drafters.map (·.order)) (collectors.map (·.order))
  serves :
    ∀ registry, build drafters collectors = .ok registry →
      registry.Serves drafters collectors
  permuted :
    ∀ registry, build drafters collectors = .ok registry →
      ∀ otherDrafters otherCollectors,
        otherDrafters.Perm drafters → otherCollectors.Perm collectors →
          ∃ reordered, build otherDrafters otherCollectors = .ok reordered ∧
            ∀ order, reordered.drafter order = registry.drafter order ∧
              reordered.collector? order = registry.collector? order
  fails_iff :
    ∀ error, build drafters collectors = .error error ↔
      FirstFault (drafters.map (·.order)) (collectors.map (·.order)) error
  configuration :
    ∀ error, build drafters collectors = .error error →
      error.isConfiguration = true

theorem build_registrationLaw
    (drafters : List Drafter) (collectors : List Collector) :
    RegistrationLaw drafters collectors := by
  constructor
  case builds_iff =>
    simp only [build_eq_ok_iff, exists_and_left, exists_eq, and_true]
  case serves => exact fun registry => serves_of_build
  case permuted =>
    intro registry hbuild otherDrafters otherCollectors hdrafters hcollectors
    obtain ⟨hfits, rfl⟩ := build_eq_ok_iff.mp hbuild
    have hother :=
      hfits.perm (hdrafters.map (·.order)) (hcollectors.map (·.order))
    refine ⟨{ drafters := otherDrafters, collectors := otherCollectors },
      build_eq_ok_iff.mpr ⟨hother, rfl⟩, fun order => ⟨?_, ?_⟩⟩
    · simp only [drafter, drafter?, find?_perm hfits.drafted_nodup hdrafters]
    · exact find?_perm hfits.collected_nodup hcollectors order
  case fails_iff => exact fun error => build_eq_error_iff
  case configuration => exact fun error hfails =>
    (build_eq_error_iff.mp hfails).isConfiguration

end Registry

/-! ## Look-ups in a holder

A holder answers every look-up as a registry would that is built for this
look-up alone, whatever was looked up before.  It keeps the registry once there
is one; as long as none can be built, it keeps nothing and reports the same
error again. -/

/-- A look-up of the strategy for an order. -/
inductive Inquiry
  | drafter (order : Order)
  | collector (order : Order)

/-- The strategy found; an order need not have a collector. -/
inductive Finding
  | drafter (found : Drafter)
  | collector (found : Option Collector)

namespace Inquiry

def inRegistry (inquiry : Inquiry) (registry : Registry) :
    Except OrderError Finding :=
  match inquiry with
  | .drafter order => (registry.drafter order).map .drafter
  | .collector order => .ok (.collector (registry.collector? order))

/-- The answer of a registry that is built for this look-up alone. -/
def afresh (drafters : List Drafter) (collectors : List Collector)
    (inquiry : Inquiry) :
    Except OrderError Finding := do
  let registry ← Registry.build drafters collectors
  inquiry.inRegistry registry

def inHolder : Inquiry → Holder.Lookup Finding
  | .drafter order => return .drafter (← Holder.drafter order)
  | .collector order => return .collector (← Holder.collector? order)

variable {drafters : List Drafter} {collectors : List Collector}

theorem afresh_of_failed
    {error : OrderError}
    (hbuild : Registry.build drafters collectors = .error error)
    (inquiry : Inquiry) :
    inquiry.afresh drafters collectors = .error error := by
  rw [afresh, hbuild]
  rfl

end Inquiry

namespace Holder

variable {holder : Holder}

/-- The outcome of building a registry from the strategies held. -/
def build (holder : Holder) : Except OrderError Registry :=
  Registry.build holder.drafters holder.collectors

/-- The holder once it was asked for its registry, which it keeps if there is
one. -/
def settled (holder : Holder) : Holder :=
  { holder with built := holder.build.toOption }

/-- A registry that is kept is the one that would be built. -/
def IsFaithful (holder : Holder) : Prop :=
  ∀ registry, holder.built = some registry → holder.build = .ok registry

theorem isFaithful_of_none
    (hempty : holder.built = none) :
    holder.IsFaithful := by
  intro registry hbuilt
  rw [hempty] at hbuilt
  contradiction

theorem isFaithful_settled (holder : Holder) : holder.settled.IsFaithful := by
  intro registry hbuilt
  change holder.build.toOption = some registry at hbuilt
  change holder.build = .ok registry
  cases hbuild : holder.build with
  | error error =>
      rw [hbuild] at hbuilt
      contradiction
  | ok found =>
      rw [hbuild] at hbuilt
      exact congrArg Except.ok (Option.some.inj hbuilt)

theorem settled_of_failed
    {error : OrderError} (hfaithful : holder.IsFaithful)
    (hbuild : holder.build = .error error) : holder.settled = holder := by
  have hempty : holder.built = none := by
    cases hbuilt : holder.built with
    | none => rfl
    | some registry =>
        have hfound := hfaithful registry hbuilt
        rw [hbuild] at hfound
        contradiction
  rw [settled, hbuild, Except.toOption, ← hempty]

/-! ### One look-up -/

theorem run_registry
    (hfaithful : holder.IsFaithful) :
    Holder.registry.run.run holder = (holder.build, holder.settled) := by
  have hget : (get : Lookup Holder).run.run holder = (.ok holder, holder) := rfl
  rw [Holder.registry, run_bind, hget]
  dsimp only
  cases hbuilt : holder.built with
  | some registry =>
      have hbuild := hfaithful registry hbuilt
      have hsettled : holder.settled = holder := by
        rw [settled, hbuild, Except.toOption, ← hbuilt]
      rw [hbuild, hsettled]
      rfl
  | none =>
      cases hbuild : holder.build with
      | error error =>
          rw [settled_of_failed hfaithful hbuild]
          change (liftM holder.build >>= _ : Lookup Registry).run.run holder = _
          rw [hbuild]
          rfl
      | ok registry =>
          change (liftM holder.build >>= _ : Lookup Registry).run.run holder = _
          rw [settled, hbuild]
          rfl

/-- A look-up is answered by the registry that would be built, and settles the
holder. -/
theorem run_inHolder
    (hfaithful : holder.IsFaithful) (inquiry : Inquiry) :
    inquiry.inHolder.run.run holder =
      (inquiry.afresh holder.drafters holder.collectors, holder.settled) := by
  have hregistry := run_registry hfaithful
  unfold Inquiry.afresh
  change _ = (holder.build >>= inquiry.inRegistry, holder.settled)
  cases inquiry with
  | drafter order =>
      rw [Inquiry.inHolder, Holder.drafter, run_bind, run_bind, hregistry]
      cases holder.build with
      | error error => rfl
      | ok registry =>
          change _ = ((registry.drafter order).map Finding.drafter,
            holder.settled)
          dsimp only
          cases registry.drafter order with
          | error error => rfl
          | ok drafter => rfl
  | collector order =>
      rw [Inquiry.inHolder, Holder.collector?, run_bind, run_bind, hregistry]
      cases holder.build with
      | error error => rfl
      | ok registry => rfl

/-! ### A row of look-ups -/

def answers (holder : Holder) : List Inquiry → List (Except OrderError Finding)
  | [] => []
  | inquiry :: later =>
    let (answer, next) := inquiry.inHolder.run.run holder
    answer :: next.answers later

def afterAll (holder : Holder) (inquiries : List Inquiry) : Holder :=
  inquiries.foldl (fun holder inquiry => (inquiry.inHolder.run.run holder).2)
    holder

theorem answers_eq_map
    (hfaithful : holder.IsFaithful) (inquiries : List Inquiry) :
    holder.answers inquiries =
      inquiries.map (Inquiry.afresh holder.drafters holder.collectors) := by
  induction inquiries generalizing holder with
  | nil => rfl
  | cons inquiry later ih =>
      have hlater := ih (isFaithful_settled holder)
      rw [answers, run_inHolder hfaithful, List.map_cons]
      exact congrArg (_ :: ·) hlater

theorem afterAll_settled
    (holder : Holder) (inquiries : List Inquiry) :
    holder.settled.afterAll inquiries = holder.settled := by
  induction inquiries with
  | nil => rfl
  | cons inquiry later ih =>
      have hstep := run_inHolder (isFaithful_settled holder) inquiry
      rw [afterAll, List.foldl_cons, hstep]
      exact ih

theorem afterAll_cons
    (hfaithful : holder.IsFaithful) (inquiry : Inquiry) (later : List Inquiry) :
    holder.afterAll (inquiry :: later) = holder.settled := by
  rw [afterAll, List.foldl_cons, run_inHolder hfaithful]
  exact afterAll_settled holder later

/-- What a holder that is asked again and again keeps and answers. -/
structure LookupLaw (drafters : List Drafter) (collectors : List Collector)
    (inquiries : List Inquiry) : Prop where
  answers_eq :
    Holder.answers { drafters, collectors } inquiries =
      inquiries.map (Inquiry.afresh drafters collectors)
  failure_repeated :
    ∀ error, Registry.build drafters collectors = .error error →
      (∀ answer ∈ Holder.answers { drafters, collectors } inquiries,
        answer = .error error) ∧
        Holder.afterAll { drafters, collectors } inquiries =
          { drafters, collectors }
  success_kept :
    ∀ registry, Registry.build drafters collectors = .ok registry →
      inquiries ≠ [] →
      Holder.afterAll { drafters, collectors } inquiries =
        { drafters, collectors, built := some registry }
  later_unaffected :
    ∀ later,
      (Holder.afterAll { drafters, collectors } inquiries).answers later =
        Holder.answers { drafters, collectors } later

theorem lookupLaw
    (drafters : List Drafter) (collectors : List Collector)
    (inquiries : List Inquiry) : LookupLaw drafters collectors inquiries := by
  have hstart : IsFaithful { drafters, collectors } := isFaithful_of_none rfl
  constructor
  case answers_eq => exact answers_eq_map hstart inquiries
  case failure_repeated =>
    intro error hbuild
    constructor
    · intro answer hanswer
      rw [answers_eq_map hstart] at hanswer
      obtain ⟨inquiry, -, rfl⟩ := List.mem_map.mp hanswer
      exact inquiry.afresh_of_failed hbuild
    · cases inquiries with
      | nil => rfl
      | cons inquiry later =>
          rw [afterAll_cons hstart]
          exact settled_of_failed hstart hbuild
  case success_kept =>
    intro registry hbuild hsome
    obtain ⟨inquiry, later, rfl⟩ := List.exists_cons_of_ne_nil hsome
    rw [afterAll_cons hstart, settled, build, hbuild, Except.toOption]
  case later_unaffected =>
    intro later
    cases inquiries with
    | nil => rfl
    | cons inquiry earlier =>
        rw [afterAll_cons hstart, answers_eq_map (isFaithful_settled _),
          answers_eq_map hstart]
        rfl

end Holder

end FamilyOrders
