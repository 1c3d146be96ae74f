/-!
The two closed vocabularies of a save: the stage a story thread has reached, and the marks an
item carries. Each word is written in the save under a fixed spelling; reading accepts exactly
that spelling. Each word is one object, shared by every place that holds it.
-/

namespace GinSave.Save

/-- The stage a story thread has reached, in the order the vocabulary lists them. -/
inductive Stage where
  | up | cuve | start | personalAssistant | unknown | intro | intro2 | firstEncounter
  | rambling | city | home | house2 | house3 | connectedWithPearls | newHome | known
  | melReturned | library | aftermath | returned | project | hub | captured | arenaHint
  | afterInvasion | vaults | hubLightsOn | capucine | writer
  deriving Repr, DecidableEq, Inhabited

namespace Stage

/-- Every stage, in vocabulary order. -/
def all : List Stage :=
  [up, cuve, start, personalAssistant, unknown, intro, intro2, firstEncounter, rambling, city,
    home, house2, house3, connectedWithPearls, newHome, known, melReturned, library, aftermath,
    returned, project, hub, captured, arenaHint, afterInvasion, vaults, hubLightsOn, capucine,
    writer]

/-- The spelling of a stage in a save. -/
def value : Stage → String
  | up => "Up" | cuve => "Cuve" | start => "Start" | personalAssistant => "Personal_assistant"
  | unknown => "Unknown" | intro => "Intro" | intro2 => "Intro_2"
  | firstEncounter => "First_encounter" | rambling => "Rambling" | city => "City"
  | home => "Home" | house2 => "House2" | house3 => "House3"
  | connectedWithPearls => "Connected_with_pearls" | newHome => "New_home" | known => "Known"
  | melReturned => "Mel_returned" | library => "Library" | aftermath => "Aftermath"
  | returned => "Returned" | project => "Project" | hub => "Hub" | captured => "Captured"
  | arenaHint => "Arena_hint" | afterInvasion => "After_invasion" | vaults => "Vaults"
  | hubLightsOn => "Hub_lights_on" | capucine => "Capucine" | writer => "Writer"

/-- The stage a spelling names, if any. -/
def ofValue? (s : String) : Option Stage :=
  all.find? (·.value == s)

/-- The name of the vocabulary, as messages give it. -/
def typeName : String := "Enum_single"

/-- The constant name of a stage: its spelling in capitals. -/
def constName (s : Stage) : String :=
  s.value.toUpper

end Stage

/-- A mark an item carries. -/
inductive Mark where
  | acquired
  | equipped
  deriving Repr, DecidableEq, Inhabited

namespace Mark

/-- Both marks, in vocabulary order. -/
def all : List Mark := [acquired, equipped]

/-- The spelling of a mark in a save. -/
def value : Mark → String
  | acquired => "Acquired"
  | equipped => "Equipped"

/-- The mark a spelling names, if any. -/
def ofValue? (s : String) : Option Mark :=
  all.find? (·.value == s)

/-- The name of the vocabulary, as messages give it. -/
def typeName : String := "Flags"

/-- The constant name of a mark: its spelling. -/
def constName (m : Mark) : String := m.value

end Mark

/-- A word of either vocabulary. The program holds each word as one object, which every place
that holds the word shares. -/
inductive Word where
  | stage (s : Stage)
  | mark (m : Mark)
  deriving DecidableEq

end GinSave.Save
