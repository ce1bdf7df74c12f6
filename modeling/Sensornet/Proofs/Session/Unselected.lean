import Sensornet.Proofs.Session.Again
import Sensornet.Proofs.Template.Unreached

namespace Sensornet

/-!
# Items that no section needs

A compile sees of a template what is kept of it, and nothing else.  So an item
that slicing does not reach might as well not be there: no key, token or notice
depends on it, nor on the positions that it shifts.
-/

open Json (Value)
open Template (Item)

namespace Session

variable {s : Session} {sections : List String} {before after : List Item} {item : Item}

/-- A call with an item that slicing does not reach is the call without it. -/
theorem addTemplate_insert (unreached : Template.Unreached s.aliases sections before item after) :
    s.addTemplate (before ++ item :: after) sections =
      s.addTemplate (before ++ after) sections := by
  unfold addTemplate
  dsimp only
  rw [unreached.sliceNotices_insert, unreached.isEmpty_insert, unreached.items_insert]

/-- Inserting an item that slicing does not reach into the template of an input
changes nothing about its compile, which gives the same rows with the same keys
and tokens, or fails alike. -/
theorem compile_insert {input : Job} {options : Options} (supply : Nat) {enlarged : Value}
    (read : Job.orEmpty Template.ofJson input.template = .ok (before ++ after))
    (readEnlarged : Job.orEmpty Template.ofJson enlarged = .ok (before ++ item :: after))
    (unreached : Template.Unreached options.allAliases input.sections before item after) :
    Job.compile { input with template := enlarged } options supply =
      input.compile options supply := by
  cases placed : Job.orEmpty Domain.ofJson input.domain with
  | error failure =>
    unfold Job.compile
    dsimp only
    rw [placed]
    rfl
  | ok domain =>
    let more : Job := { input with template := enlarged }
    have placedToo : Job.orEmpty Domain.ofJson more.domain = .ok domain := placed
    have readMore : Job.orEmpty Template.ofJson more.template = .ok (before ++ item :: after) :=
      readEnlarged
    have placing := moves_addDomain (resume options supply input.existing) domain
    have aliases : ((resume options supply input.existing).addDomain domain).aliases =
        options.allAliases :=
      placing.settings.2.1.trans (resume_parts options supply input.existing).2.1
    rw [← aliases] at unreached
    rw [Job.compile_of_read placedToo readMore, Job.compile_of_read placed read]
    exact congrArg Except.ok (addTemplate_insert unreached)

/-- A trigger that reads the loss, but writes what nobody asks for, has no part in
a compile, although it shares the id of the trigger of the loss. -/
theorem compile_insert_idle :
    let template := lossBlueprints "zone_loss" (.array [.text "gain_trigger"])
    let before := template.take 4
    let after := template.drop 4
    let idle := triggerBlueprint "loss_trigger" "MetricCategory.Zone.waste.qh"
      (.array [.text "MetricCategory.Zone.loss.qh"])
    Job.orEmpty Template.ofJson (northJob template).template = .ok (before ++ after) ∧
    Job.orEmpty Template.ofJson (northJob (before ++ idle :: after)).template =
      .ok (before ++ idle :: after) ∧
    Template.Unreached Options.default.allAliases ["OPS"] before idle after ∧
    (∃ s, (northJob template).compile .default 0 = .ok s) ∧
    (northJob (before ++ idle :: after)).compile .default 0 =
      (northJob template).compile .default 0 := by
  intro template before after idle
  have uncalled : ∀ d ∈ (Template.select (before ++ idle :: after) ["OPS"]
      Options.default.allAliases).needed, idle.output? Options.default.allAliases ≠ some d := by
    decide +kernel
  have unreached : Template.Unreached Options.default.allAliases ["OPS"] before idle after :=
    ⟨by decide +kernel, fun _ d need => uncalled d (Template.mem_descriptors.mp need)⟩
  have read : Job.orEmpty Template.ofJson (northJob template).template = .ok (before ++ after) := rfl
  have readEnlarged : Job.orEmpty Template.ofJson (northJob (before ++ idle :: after)).template =
      .ok (before ++ idle :: after) := rfl
  have same : Job.compile { northJob template with
      template := (northJob (before ++ idle :: after)).template } .default 0 =
      (northJob template).compile .default 0 :=
    compile_insert 0 read readEnlarged unreached
  exact ⟨read, readEnlarged, unreached, ⟨_, rfl⟩, same⟩

end Session
end Sensornet
