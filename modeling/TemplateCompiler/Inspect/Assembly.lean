import TemplateCompiler.Inspect.Pipeline

/-!
# Changes of an assembly described in JSON

Passes that are described rather than written do nothing but note their name, and fail if the
description gives a cause.
-/

namespace TemplateCompiler

def describedOutcome {α : Type} (j : Json) (value : α) : Except Text α :=
  let cause := j.str "fail"
  if cause.isEmpty then .ok value else .error cause

def Pass.ofJson {α : Type} (j : Json) (action : α) : Pass α :=
  { name := j.str "name", order := j.int "order", note? := some (j.str "name"), action }

/-- The pass on syntax trees that a value describes. -/
def SyntaxAction.ofJson (j : Json) : SyntaxAction := { run := describedOutcome j }

/-- The pass on intermediate trees that a value describes. -/
def DocumentAction.ofJson (j : Json) : DocumentAction := fun _ d => describedOutcome j d

/-- The classifier that a value describes; it accepts documents only to fail. -/
def ClassifierAction.ofJson (j : Json) : ClassifierAction :=
  { accepts := fun _ _ => !(j.str "fail").isEmpty, run := fun _ _ d => describedOutcome j d }

/-- The settings with one more callback, which appends a text to a name. -/
def ClassifierSettings.appending (s : ClassifierSettings) (what : String) (value : Text) :
    ClassifierSettings :=
  match what with
  | "namespace" => { s with namespaceName := s.namespaceName ++ [fun n => n ++ value] }
  | "class" =>
    { s with classShape := s.classShape ++ [fun c => { c with name := c.name ++ value }] }
  | "method" =>
    { s with methodShape := s.methodShape ++ [fun m => { m with name := m.name ++ value }] }
  | _ => s

namespace PassRegistry

/-- A change of a registry that a value describes, and whether it found what it was to change. -/
def apply {α : Type} (r : PassRegistry α) (action : Json → α) (j : Json) : PassRegistry α × Bool :=
  let pass : Pass α := .ofJson j (action j)
  let changed (r? : Option (PassRegistry α)) := (r?.getD r, r?.isSome)
  match j.word "do" with
  | "pass" => (r.add [pass], true)
  | "replace" => changed (r.replace? (j.str "with") pass)
  | "remove" => changed (r.remove? (j.str "name"))
  | _ => (r, (r.lookup? (j.str "name")).isSome)

end PassRegistry

namespace Features

/-- A change of the registry that a value names. -/
def applyToRegistry (f : Features) (j : Json) : Features × Bool :=
  match j.word "reg" with
  | "syntax" =>
    let (r, found) := f.syntaxPasses.apply SyntaxAction.ofJson j
    ({ f with syntaxPasses := r }, found)
  | "classifier" =>
    let (r, found) := f.classifiers.apply ClassifierAction.ofJson j
    ({ f with classifiers := r }, found)
  | "directive" =>
    let (r, found) := f.directivePasses.apply DocumentAction.ofJson j
    ({ f with directivePasses := r }, found)
  | "optimization" =>
    let (r, found) := f.optimizations.apply DocumentAction.ofJson j
    ({ f with optimizations := r }, found)
  | _ =>
    let (r, found) := f.directives.remove (j.str "name")
    ({ f with directives := r }, found)

def without (f : Features) (what : String) : Features :=
  match what with
  | "target" => { f with target? := none }
  | "parserOptions" => { f with parserOptions? := none }
  | "codegenOptions" => { f with codeOptions? := none }
  | "discovery" => { f with discovery? := none }
  | "imports" => { f with providedImport? := none }
  | "provider" => { f with helpers? := none }
  | _ => { f with discovery? := some .nothing }

end Features

/-- A change of an assembly that a value describes, and what came of it. -/
def Assembly.apply (a : Assembly) (j : Json) : Assembly × Except DirectiveError Bool :=
  let named := j.str "name"
  let withFeatures (f : Features) (found : Bool) : Assembly × Except DirectiveError Bool :=
    ({ a with features := f }, .ok found)
  match j.word "do" with
  | "defaults" => (a.addDefaultPhases.addDefaultFeatures, .ok true)
  | "remove" | "lookup" | "pass" | "replace" =>
    let (f, found) := a.features.applyToRegistry j
    withFeatures f found
  | "addPhase" => (((Phase.ofName? named).map Stage.phase).elim a a.addPhase, .ok true)
  | "replacePhase" =>
    match (Phase.ofName? (j.str "with")).bind fun p => a.replacePhase? named (.phase p) with
    | some a => (a, .ok true)
    | none => (a, .ok false)
  | "addDirective" =>
    match DirectiveDescriptor.ofJson (j.get "directive") with
    | .ok d => (a.addDirectives [d], .ok true)
    | .error e => (a, .error e)
  | "configure" =>
    withFeatures { a.features with
      classifierSettings := a.features.classifierSettings.appending (j.word "what")
        (j.str "value") } true
  | "drop" => withFeatures (a.features.without (j.word "what")) true
  | "target" =>
    withFeatures { a.features with
      targetExtensions := a.features.targetExtensions
        ++ [Code.TargetExtension.ofKind named (j.str "value")] } true
  | "nilDiscovery" => withFeatures { a.features with discovery? := some .nothing } true
  | _ => (a, .ok true)

end TemplateCompiler
