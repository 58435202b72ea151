import BeaconCheck.Pattern.Basic

/-!
# Widths

The fewest and the most characters that a pattern can take. What a lookbehind holds has
to take the same number always, so that its start is known. Both ends are cut off at a
limit that no text reaches.

`Pattern` itself keeps the widths of its groups, because what refers to a group is as
wide as the group.
-/

namespace BeaconCheck.Pattern

/-- The fewest and the most characters that a pattern takes. -/
structure Width where
  least : Nat
  most : Nat
deriving DecidableEq, Repr, Inhabited

namespace Width

/-- A repetition without an upper bound counts as one of this many iterations. -/
def limit : Nat := 4294967295

/-- Takes no character. -/
def none : Width := ⟨0, 0⟩

/-- Takes one character. -/
def one : Width := ⟨1, 1⟩

/-- One after the other. -/
def add (a b : Width) : Width := ⟨a.least + b.least, a.most + b.most⟩

/-- One or the other. -/
def or (a b : Width) : Width := ⟨min a.least b.least, max a.most b.most⟩

/-- The least and most iterations of a repetition, one after the other. -/
def times (w : Width) (least : Nat) (most : Option Nat) : Width :=
  ⟨w.least * least, w.most * most.getD limit⟩

/-- Cut off at the limit. -/
def cut (w : Width) : Width := ⟨min w.least (limit - 1), min w.most limit⟩

end Width

mutual

/-- The width of a node, where `groups` tells the widths of the groups. -/
def Node.width (groups : List (Option Width)) : Node → Width
  | .char _ | .any | .set .. => .one
  | .anchor _ | .look .. => .none
  | .branch alternatives => widthOfAny groups alternatives
  | .loop least most _ body => (widthOf groups body).times least most
  | .group _ _ _ body | .atomic body => widthOf groups body
  | .backref group => ((groups[group]?).bind id).getD .none
  | .conditional _ yes no =>
    (widthOf groups yes).or (widthOfElse groups no)

/-- The width of a sequence of nodes. -/
def widthOf (groups : List (Option Width)) : List Node → Width
  | [] => .none
  | node :: rest => ((node.width groups).add (widthOf groups rest)).cut

/-- The width of a choice between sequences. -/
def widthOfAny (groups : List (Option Width)) : List (List Node) → Width
  | [] => .none
  | [last] => widthOf groups last
  | first :: rest => (widthOf groups first).or (widthOfAny groups rest)

/-- The width of the alternative for a group that took no part; nothing where there is
none. -/
def widthOfElse (groups : List (Option Width)) : Option (List Node) → Width
  | Option.none => .none
  | some body => widthOf groups body

end

end BeaconCheck.Pattern

namespace BeaconCheck

/-- A pattern: its nodes, the switches that hold for all of it, and the widths of its
groups by their number. -/
structure Pattern where
  nodes : List Pattern.Node
  flags : Pattern.Flags
  widths : List (Option Pattern.Width)
deriving Repr, Inhabited

end BeaconCheck
