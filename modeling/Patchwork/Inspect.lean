import Patchwork.Registry
import Patchwork.Text.Quoted

namespace Patchwork.Inspect

open Text (quoted)

def braced (parts : List String) : String := "\x7b" ++ String.intercalate ", " parts ++ "\x7d"

def bracketed (parts : List String) : String := "[" ++ String.intercalate ", " parts ++ "]"

def record (kind : String) (fields : List (String × String)) : String :=
  kind ++ " \x7b " ++ String.intercalate ", " (fields.map fun f => f.1 ++ ": " ++ f.2) ++ " \x7d"

def boolean (b : Bool) : String := if b then "true" else "false"

def groupMap {α : Type} (value : α → String) (m : GroupMap α) : String :=
  braced (m.toList.map fun e => toString e.1 ++ ": " ++ value e.2)

def names (t : GroupNames) : String := record "GroupTable" [("names", groupMap quoted t)]

def anchor (a : Anchor) : String :=
  record "Anchor" [("id", quoted a.id), ("occurrence", toString a.occurrence)]

def anchors (t : Anchors) : String := record "AnchorTable" [("anchors", groupMap anchor t)]

def flags (f : ModeFlags) : String :=
  record "ModeFlags" [
    ("case_insensitive", boolean f.caseInsensitive), ("multiline", boolean f.multiLine),
    ("dotall", boolean f.dotAll), ("unicode", boolean f.unicode)]

def options (o : Options) : String :=
  record "Options" [("flags", flags o.flags), ("max_depth", toString o.maxDepth)]

def expression (s : Store) (e : Expression) : String :=
  record "Expression" [("source", quoted e.source), ("compiled", boolean (s.isCompiled e))]

def registry (s : Store) (r : Registry) : String :=
  record "Registry" [
    ("expressions", braced (r.expressions.map fun e =>
      quoted e.1 ++ ": " ++ bracketed (e.2.map (expression s)))),
    ("functions", bracketed (r.functionIds.map quoted)),
    ("options", options r.options)]

def compiled (c : CompiledExpression) : String :=
  record "CompiledExpression" [
    ("source", quoted c.source), ("pattern", quoted c.pattern),
    ("group_count", toString c.groupCount), ("group_names", names c.names),
    ("anchors", anchors c.anchors)]

end Patchwork.Inspect
