import TemplateTree.Build.Target
import TemplateTree.Selector.Segment
import TemplateTree.Template.OfJson

/-! Building templates. An element is created, gets its class and then its id, and then its
content; a child is finished before it is appended. An existing node is returned as it is. -/

namespace TemplateTree

structure BuildConfig where
  defaultTag : String := Selector.defaultTag
  /-- How many elements may lie inside each other. -/
  maxDepth : Nat := 128

inductive BuildFault (ε : Type) where
  | target (fault : ε)
  | template (fault : TemplateFault)
  | depthExceeded (limit : Nat)

namespace BuildFault

variable {ε : Type}

def target? : BuildFault ε → Option ε
  | target fault => some fault
  | _ => none

def message (describe : ε → String) : BuildFault ε → String
  | target fault => "backend error: " ++ describe fault
  | template fault => fault.message
  | depthExceeded limit =>
    "template nesting exceeds the limit of " ++ toString limit ++ " levels"

end BuildFault

/-- What a build reports while it runs. -/
inductive BuildEvent where
  | dropped (selector : String) (segment : Selector.Segment)
  | element (selector : Selector) (depth : Nat) (kind : ContentKind)
deriving DecidableEq, Repr

/-- The target so far and the events so far. -/
structure Progress (σ : Type) where
  target : σ
  events : List BuildEvent

abbrev Build (σ ε α : Type) := ExceptT (BuildFault ε) (StateM (Progress σ)) α

namespace Build

variable {σ ν ε α : Type}

/-- A step on the target; its faults become faults of the build. -/
def act (step : Action σ ε α) : Build σ ε α :=
  ExceptT.mk fun progress =>
    let (result, target) := step.run progress.target
    (result.mapError .target, { progress with target })

def report (events : List BuildEvent) : Build σ ε Unit :=
  modify fun progress => { progress with events := progress.events ++ events }

variable [Target σ ν ε]

def checkDepth (config : BuildConfig) (depth : Nat) : Build σ ε Unit :=
  if config.maxDepth ≤ depth then throw (.depthExceeded config.maxDepth) else pure ()

/-- Sets an attribute for which a selector may have a value. -/
def setGiven (node : ν) (name : String) : Option String → Build σ ε Unit
  | none => pure ()
  | some value => act (Target.setAttribute node name (.text value))

/-- A new element with the class and the id of its selector. -/
def startElement (config : BuildConfig) (depth : Nat) (text : String) (kind : ContentKind) :
    Build σ ε ν := do
  checkDepth config depth
  let selector := Selector.parseWith config.defaultTag text
  report ((Selector.dropped text).map (.dropped text) ++ [.element selector depth kind])
  let node ← act (Target.createElement selector.tag)
  setGiven node "class" selector.className?
  setGiven node "id" selector.id
  return node

def applyProperty (node : ν) : Property → Build σ ε Unit
  | .attr name value => act (Target.setAttribute node name value)
  | .html text => act (Target.setText node text)
  | .style css => act (Target.setAttribute node "style" (.text css))

mutual

def template (config : BuildConfig) (depth : Nat) : Template ν → Build σ ε ν
  | .node handle => pure handle
  | .element selector value => do
    let node ← startElement config depth selector value.kind
    content config depth node value
    return node

def content (config : BuildConfig) (depth : Nat) (node : ν) : Content ν → Build σ ε Unit
  | .text value => act (Target.setText node value)
  | .bag ⟨properties, templates⟩ => do
    properties.forM (applyProperty node)
    children config depth node templates
  | .items templates => children config depth node templates
  | .node handle => act (Target.appendChild node handle)

/-- Builds and appends templates one after the other, below an element at `depth`. -/
def children (config : BuildConfig) (depth : Nat) (node : ν) :
    List (Template ν) → Build σ ε Unit
  | [] => pure ()
  | item :: rest => do
    let child ← template config (depth + 1) item
    act (Target.appendChild node child)
    children config depth node rest

end

end Build

/-- How a build ended; the target keeps what was done before a fault. -/
structure BuildOutcome (σ ν ε : Type) where
  result : Except (BuildFault ε) ν
  target : σ
  events : List BuildEvent

variable {σ ν ε : Type} [Target σ ν ε]

def Template.build (config : BuildConfig) (template : Template ν) (target : σ) :
    BuildOutcome σ ν ε :=
  let (result, progress) := (Build.template config 0 template).run.run ⟨target, []⟩
  ⟨result, progress.target, progress.events⟩

def buildJson (config : BuildConfig) (json : Json) (target : σ) : BuildOutcome σ ν ε :=
  match Template.ofJson json with
  | .ok template => template.build config target
  | .error fault => ⟨.error (.template fault), target, []⟩

/-- Builds the template that a text holds. -/
def buildText (config : BuildConfig) (text : String) (target : σ) : BuildOutcome σ ν ε :=
  match Json.parse text with
  | .ok json => buildJson config json target
  | .error error => ⟨.error (.template (.json error)), target, []⟩

end TemplateTree
