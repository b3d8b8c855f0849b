import SpokenFeedback.Rule.Basic

/-!
# Drafts of rules

A draft gathers the parts of a rule one by one.  Faults in selectors and metadata are kept and
refuse the rule in the end, the earliest of them first; a fault in the template refuses it only if
the template is used.  Faults in conditions never refuse a rule: it is built, and no event meets
its criteria.

A rule without a scope of its own is filed under the package that its criteria demand, and under
the fallback scope if they demand none.
-/

namespace SpokenFeedback

/-- The parts of a rule that have been given so far. -/
structure Draft where
  scope : Option Scope
  criteria : Criteria
  hostFilter : Option HostFilter
  template : Option String
  selectors : List Selector
  hostFormatter : Option HostFormatter
  metadata : Metadata
  auditory : List String
  haptic : List String
  index : Nat
  faults : List ValidationFault

/-- One part to be given to a draft. -/
inductive DraftStep where
  | specify (property : Property) (specification : String)
  | specifyNamed (name specification : String)
  | condition (condition : Condition)
  | filter (filter : HostFilter)
  | template (template : String)
  | readSelector (kind value : String)
  | selector (selector : Selector)
  | formatter (formatter : HostFormatter)
  | readMetadata (key text : String)
  | metadata (key : String) (value : Value)
  | scope (scope : Scope)
  | index (index : Nat)

namespace Draft

/-- The draft to which nothing has been given. -/
def empty : Draft :=
  { scope := none
    criteria := .empty
    hostFilter := none
    template := none
    selectors := []
    hostFormatter := none
    metadata := .empty
    auditory := []
    haptic := []
    index := 0
    faults := [] }

instance : Inhabited Draft := ⟨empty⟩

/-- Keeps a fault. -/
def addFault (draft : Draft) (fault : ValidationFault) : Draft :=
  { draft with faults := draft.faults ++ [fault] }

/-- Gives one metadata value. -/
def setMetadata (draft : Draft) (key : String) (value : Value) : Draft :=
  { draft with metadata := draft.metadata.insert key value }

/-- Gives a queue mode by name. -/
def readQueueMode (draft : Draft) (text : String) : Draft :=
  match QueueMode.read text with
  | .ok mode => draft.setMetadata Utterance.queueingKey (.int mode.code)
  | .error fault => draft.addFault fault

/-- Gives metadata under the name of a property, or as text under any other key. -/
def readProperty (draft : Draft) (key text : String) : Draft :=
  match Property.ofName? key with
  | some property =>
    match Literal.read property text with
    | .ok value => draft.setMetadata key value
    | .error fault => draft.addFault fault
  | none => draft.setMetadata key (.text text)

/-- The metadata keys that name a sound. -/
def auditoryKeys : List String := ["earcon", "customEarcon"]

/-- The metadata keys that name a vibration. -/
def hapticKeys : List String := ["vibration", "customVibration"]

/-- Gives metadata as text: a queue mode, a sound, a vibration, or a value. -/
def readMetadata (draft : Draft) (key text : String) : Draft :=
  if key = Utterance.queueingKey then draft.readQueueMode text
  else if auditoryKeys.contains key then
    { draft with auditory := draft.auditory ++ [Text.trim text] }
  else if hapticKeys.contains key then
    { draft with haptic := draft.haptic ++ [Text.trim text] }
  else draft.readProperty key text

/-- Gives a selector by its kind. -/
def readSelector (draft : Draft) (kind value : String) : Draft :=
  match Selector.read kind value with
  | .ok selector => { draft with selectors := draft.selectors ++ [selector] }
  | .error fault => draft.addFault fault

/-- Gives one part. -/
def apply (draft : Draft) : DraftStep → Draft
  | .specify property specification =>
    { draft with criteria := draft.criteria.specify property specification }
  | .specifyNamed name specification =>
    { draft with criteria := draft.criteria.specifyNamed name specification }
  | .condition condition => { draft with criteria := draft.criteria.add condition }
  | .filter filter => { draft with hostFilter := some filter }
  | .template template => { draft with template := some template }
  | .readSelector kind value => draft.readSelector kind value
  | .selector selector => { draft with selectors := draft.selectors ++ [selector] }
  | .formatter formatter => { draft with hostFormatter := some formatter }
  | .readMetadata key text => draft.readMetadata key text
  | .metadata key value => draft.setMetadata key value
  | .scope scope => { draft with scope := some scope }
  | .index index => { draft with index }

/-- Gives parts in order. -/
def applyAll (draft : Draft) (steps : List DraftStep) : Draft := steps.foldl apply draft

/-- The scope of the rule: the one given, or that of the package that the criteria demand. -/
def ruleScope (draft : Draft) : Scope :=
  match draft.scope with
  | some scope => scope
  | none =>
    match draft.criteria.packageName? with
    | some package => if Text.isBlankText package then .fallback else .named package
    | none => .fallback

/-- The filter of the rule: the host's, or the criteria if any have been given. -/
def ruleFilter (draft : Draft) : Option RuleFilter :=
  match draft.hostFilter with
  | some filter => some (.host filter)
  | none => if draft.criteria.isEmpty then none else some (.criteria draft.criteria)

/-- The phrase of the template and the selectors. -/
def phrase (draft : Draft) : Except ValidationFault Phrase :=
  match draft.template with
  | none => .ok ⟨none, draft.selectors⟩
  | some text => (TemplateSource.read text).map fun source => ⟨some source, draft.selectors⟩

/-- The formatter of the rule: the host's, or the phrase if any part of it has been given. -/
def ruleFormatter (draft : Draft) : Except ValidationFault (Option RuleFormatter) :=
  match draft.hostFormatter with
  | some formatter => .ok (some (.host formatter))
  | none =>
    if draft.template.isNone && draft.selectors.isEmpty then .ok none
    else draft.phrase.map fun phrase => some (.phrase phrase)

/-- The rule of a draft, or its first fault. -/
def build (draft : Draft) : Except Fault Rule :=
  match draft.faults with
  | fault :: _ => .error (.validation fault)
  | [] =>
    match draft.ruleFormatter with
    | .error fault => .error (.validation fault)
    | .ok formatter =>
      .ok
        { scope := draft.ruleScope
          filter := draft.ruleFilter
          formatter
          metadata := draft.metadata
          auditory := draft.auditory
          haptic := draft.haptic
          index := draft.index }

end Draft

/-- The rule of some parts given in order. -/
def Rule.ofSteps (steps : List DraftStep) : Except Fault Rule := (Draft.empty.applyAll steps).build

end SpokenFeedback
