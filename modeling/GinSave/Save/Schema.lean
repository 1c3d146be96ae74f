import GinSave.Save.Node

/-!
The save schema: for every kind of record, its fields in order, each with a declared shape and
the seed of its default. A fresh save is the default of the root kind, built from the seeds.

Shapes say what a document may put in a field, and how a value is coerced there. Two shapes are
declared but not checked apart from their base: a 32-bit word accepts any integer, as a plain
integer does. The 64-bit identifier is checked to lie in `[0, 2^64)`.
-/

namespace GinSave.Save

/-- The declared shape of a field. -/
inductive Shape where
  | integer
  /-- A 32-bit word, checked as any integer. -/
  | word32
  /-- A 64-bit word, checked to lie in `[0, 2^64)`. -/
  | word64
  | real
  | truth
  | text
  | stage
  /-- A list of marks. -/
  | marks
  /-- A list of status words, from a vocabulary that has no words yet. -/
  | statuses
  /-- A list of 32-bit words. -/
  | words
  /-- A list of texts. -/
  | texts
  /-- A list of anything a document holds. -/
  | anyList
  | record (k : Kind)
  | records (k : Kind)
  /-- A record of a kind, or nothing. -/
  | optional (k : Kind)
  deriving Repr, DecidableEq

/-- The seed of a field's default. -/
inductive Seed where
  | int (n : Int)
  | real (x : Float)
  | truth (b : Bool)
  | text (s : String)
  | stage (s : Stage)
  | marks (ms : List Mark)
  /-- A list of `count` zeros. -/
  | zeros (count : Nat)
  /-- A list of `count` empty texts. -/
  | blanks (count : Nat)
  | empty
  | vector (xs : List Float)
  /-- The default record of the field's kind. -/
  | record
  /-- A list of `count` default records of the field's kind. -/
  | records (count : Nat)
  | absent

/-- A field of a kind of record. -/
structure Field where
  name : String
  shape : Shape
  seed : Seed

/-- The fields of every kind of record, in order. -/
def Kind.fields : Kind → List Field
  | .vec2 => [⟨"x", .real, .real 0⟩, ⟨"y", .real, .real 0⟩]
  | .vec3 => [⟨"x", .real, .real 0⟩, ⟨"y", .real, .real 0⟩, ⟨"z", .real, .real 0⟩]
  | .trail => [⟨"points", .anyList, .empty⟩]
  | .marker =>
    [⟨"pos", .record .vec2, .vector [0, 0]⟩, ⟨"type", .word32, .int 0⟩,
      ⟨"placed", .truth, .truth false⟩]
  | .markers => [⟨"markers", .records .marker, .records 16⟩]
  | .mapManager => [⟨"displayed", .truth, .truth false⟩]
  | .parts => [⟨"map_manager", .record .mapManager, .record⟩]
  | .halynAlign =>
    [⟨"configuration_discrete", .integer, .int 2⟩, ⟨"first_rotation_ever", .truth, .truth true⟩,
      ⟨"state", .stage, .stage .up⟩]
  | .tomo => [⟨"quest", .stage, .stage .cuve⟩]
  | .frailPuppet => [⟨"quest", .stage, .stage .start⟩]
  | .capu => [⟨"capu_name", .stage, .stage .personalAssistant⟩, ⟨"quest", .stage, .stage .start⟩]
  | .hacker =>
    [⟨"hacker_name", .stage, .stage .unknown⟩, ⟨"met_at_least_once", .truth, .truth false⟩]
  | .philosopher =>
    [⟨"repaired_tuner", .truth, .truth false⟩, ⟨"tuner_interacted", .truth, .truth false⟩]
  | .shii =>
    [⟨"quest", .stage, .stage .intro⟩, ⟨"still_dead_when_hub_attacked", .truth, .truth false⟩,
      ⟨"bridge_intro_done", .truth, .truth false⟩]
  | .minions =>
    [⟨"sin", .truth, .truth false⟩, ⟨"cos", .truth, .truth false⟩, ⟨"tan", .truth, .truth false⟩]
  | .mel =>
    [⟨"quest", .stage, .stage .intro⟩, ⟨"name", .stage, .stage .unknown⟩,
      ⟨"minions", .record .minions, .record⟩, ⟨"met_in_shop_once", .truth, .truth false⟩,
      ⟨"rambo_awoken", .truth, .truth false⟩]
  | .cos =>
    [⟨"encountered", .truth, .truth false⟩, ⟨"cos_keepers_spawned", .truth, .truth false⟩,
      ⟨"cos_keepers_killed", .truth, .truth false⟩]
  | .tan => [⟨"fan_stopped", .truth, .truth false⟩]
  | .rad => [⟨"quest", .stage, .stage .firstEncounter⟩]
  | .estragon =>
    [⟨"quest", .stage, .stage .rambling⟩, ⟨"has_refused_audience", .truth, .truth false⟩]
  | .mioPlot => [⟨"death_after_hub", .word32, .int 0⟩]
  | .halynPlot => [⟨"encountered", .truth, .truth false⟩, ⟨"statue", .stage, .stage .city⟩]
  | .goliath =>
    [⟨"in_observatory", .truth, .truth false⟩, ⟨"room_entrance_triggers", .texts, .blanks 12⟩]
  | .plotPoints =>
    [⟨"tomo", .record .tomo, .record⟩, ⟨"frail_puppet", .record .frailPuppet, .record⟩,
      ⟨"capu", .record .capu, .record⟩, ⟨"hacker", .record .hacker, .record⟩,
      ⟨"philosopher", .record .philosopher, .record⟩, ⟨"shii", .record .shii, .record⟩,
      ⟨"mel", .record .mel, .record⟩, ⟨"cos", .record .cos, .record⟩,
      ⟨"tan", .record .tan, .record⟩, ⟨"rad", .record .rad, .record⟩,
      ⟨"estragon", .record .estragon, .record⟩, ⟨"mio", .record .mioPlot, .record⟩,
      ⟨"halyn", .record .halynPlot, .record⟩, ⟨"goliath", .record .goliath, .record⟩]
  | .factorio => [⟨"selected_experiment", .word32, .int 4⟩]
  | .mapState =>
    [⟨"face_inside_bits", .words, .zeros 1241⟩, ⟨"edge_visited_bits", .words, .zeros 1408⟩]
  | .trinket => [⟨"equip_order", .word32, .int 0⟩]
  | .rebuild => [⟨"step", .word32, .int 1⟩, ⟨"scrap_investment", .word32, .int 0⟩]
  | .rebuildNpc => [⟨"scrap_investment", .word32, .int 0⟩]
  | .datapad =>
    [⟨"status", .statuses, .empty⟩, ⟨"discovery_index", .integer, .int 0⟩,
      ⟨"mark_as_read", .truth, .truth false⟩]
  | .pairValue =>
    [⟨"flags", .marks, .marks [.acquired]⟩, ⟨"count", .integer, .int 0⟩,
      ⟨"trinket", .optional .trinket, .absent⟩, ⟨"rebuild", .optional .rebuild, .absent⟩,
      ⟨"rebuild_npc", .optional .rebuildNpc, .absent⟩, ⟨"datapad", .optional .datapad, .absent⟩]
  | .pair => [⟨"key", .text, .text ""⟩, ⟨"value", .record .pairValue, .record⟩]
  | .savedEntries => [⟨"pairs", .records .pair, .records 1710⟩]
  | .save =>
    [⟨"flags", .marks, .marks []⟩, ⟨"version", .word32, .int 5⟩, ⟨"id", .word64, .int 0⟩,
      ⟨"checkpoint_id", .text, .text "cp_FOCUS_dispatch_zone"⟩,
      ⟨"checkpoint_world_pos", .record .vec3, .vector [-1000, 4426, 0]⟩,
      ⟨"checkpoint_wrap_index", .integer, .int 0⟩,
      ⟨"checkpoint_is_temporary", .truth, .truth false⟩,
      ⟨"previous_checkpoint_id", .text, .text ""⟩,
      ⟨"previous_checkpoint_world_pos", .record .vec3, .vector [0, 0, 0]⟩,
      ⟨"previous_checkpoint_wrap_index", .integer, .int 0⟩,
      ⟨"trail", .record .trail, .record⟩, ⟨"markers", .record .markers, .record⟩,
      ⟨"mio_parts", .record .parts, .record⟩, ⟨"halyn_align", .record .halynAlign, .record⟩,
      ⟨"map_trace_flags", .marks, .marks []⟩, ⟨"plotpoints", .record .plotPoints, .record⟩,
      ⟨"nextfest_demo_time_to_bad_ending", .real, .real (-1)⟩,
      ⟨"nextfest_demo_time_to_good_ending", .real, .real (-1)⟩,
      ⟨"orb_slash_slot", .text, .text ""⟩, ⟨"factorio", .record .factorio, .record⟩,
      ⟨"nacre_in_hub_basin", .word32, .int 0⟩, ⟨"nacre_buffered_in_hub_basin", .word32, .int 0⟩,
      ⟨"shield_decay_mask", .word32, .int 1⟩, ⟨"mio_wrap_index", .integer, .int 0⟩,
      ⟨"map_state", .record .mapState, .record⟩]
  | .visibility => [⟨"pairs", .anyList, .empty⟩]
  | .notImportant =>
    [⟨"playtime", .real, .real 0⟩, ⟨"last_save_time", .real, .real 0⟩,
      ⟨"liquid_nacres_count", .word32, .int 0⟩, ⟨"solidify_nacre_count", .integer, .int 0⟩]
  | .root =>
    [⟨"save", .record .save, .record⟩, ⟨"saved_entries", .record .savedEntries, .record⟩,
      ⟨"saved_visibility2", .record .visibility, .record⟩,
      ⟨"saved_not_important", .record .notImportant, .record⟩]

/-- The field names of a kind, in order. -/
def Kind.fieldNames (k : Kind) : List String :=
  k.fields.map (·.name)

/-- The kind of record a shape holds, if it holds records. -/
def Shape.recordKind? : Shape → Option Kind
  | .record k | .records k | .optional k => some k
  | _ => none

/-- How deep records nest in the schema, with room to spare: the root holds the entries, which
hold pairs, which hold values, which hold optional records, which hold vectors at most. -/
def schemaDepth : Nat := 8

mutual
/-- The default of a kind, built within `fuel` levels of nesting. -/
def Kind.defaultWithin : Nat → Kind → Node
  | 0, _ => .none
  | fuel + 1, k => .record k (fieldDefaults fuel k k.fields)

/-- The defaults of fields of kind `k`, within `fuel` levels. -/
def fieldDefaults (fuel : Nat) (k : Kind) : List Field → List (String × Node)
  | [] => []
  | f :: rest => (f.name, seedNode fuel f.shape f.seed) :: fieldDefaults fuel k rest

/-- The node a seed stands for in a field of a shape, within `fuel` levels. -/
def seedNode (fuel : Nat) (shape : Shape) : Seed → Node
  | .int n => .int n
  | .real x => .real x
  | .truth b => .bool b
  | .text s => .text s
  | .stage s => .stage s
  | .marks ms => .list (ms.map .mark)
  | .zeros n => .list (List.replicate n (.int 0))
  | .blanks n => .list (List.replicate n (.text ""))
  | .empty => .list []
  | .vector xs => match shape with
    | .record k => .record k (k.fieldNames.zip (xs.map .real))
    | _ => .none
  | .record => match shape.recordKind? with
    | some k => Kind.defaultWithin fuel k
    | none => .none
  | .records n => match shape.recordKind? with
    | some k => .list (List.replicate n (Kind.defaultWithin fuel k))
    | none => .none
  | .absent => .none
end

/-- The default record of a kind. -/
def Kind.default (k : Kind) : Node :=
  k.defaultWithin schemaDepth

/-- A fresh save: the default of the root kind. -/
def freshSave : Node :=
  Kind.root.default

/-- The declared shape of a kind's field, if the kind has that field. -/
def Kind.shapeOf? (k : Kind) (name : String) : Option Shape :=
  (k.fields.find? (·.name == name)).map (·.shape)

end GinSave.Save
