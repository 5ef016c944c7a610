import PageContext.Transform.Duplicates
import PageContext.Transform.Groups
import PageContext.Transform.Headings
import PageContext.Transform.Images
import PageContext.Transform.Settings
import PageContext.Transform.Shaping
import PageContext.Transform.Sorting

/-!
# Chains of transforms

A chain is a list of specifications.  Each is read when its turn comes and applied to the result of
those before it; the first failure ends the chain, and a crash ends everything.
-/

namespace PageContext.Transform

def apply (frame : TimeFrame) (input : Json) (transform : Transform) :
    Except (Stop TransformError) Json :=
  let action := transform.name
  match transform with
  | .calendarEvents => (arrayFor action input).map fun events => .array (decompose frame none events)
  | .timeAgo => labelled action frame (fun instant => .ok (frame.timeAgo instant)) input
  | .timeAgoInDays hours =>
      labelled action frame (fun instant => frame.timeAgoInDays instant hours) input
  | .displayDate style =>
      labelled action frame (fun instant => frame.displayDate instant style) input
  | .articleDate rule => .ok (onEach (withArticleDate frame rule) input)
  | .groupByDate => grouped input
  | .addYearMonthHeadings rule => insertHeadings frame rule input
  | .limit size => (arrayFor action input).map fun items => .array (items.take size)
  | .removeDuplicates rule =>
      (arrayFor action input).map fun records => .array (withoutDuplicates rule records)
  | .removeDuplicatesFromGroups rule => onItemsOfGroups action (withoutDuplicates rule) input
  | .sort rule => (arrayFor action input).map fun records => .array (sorted rule records)
  | .sortEachGroup rule => onItemsOfGroups action (sorted rule) input
  | .project projection => .ok (projected projection input)
  | .firstItem default => .ok (firstOr default input)
  | .normalizeImages fields => .ok (onEach (withImages fields) input)

/-- Reads one specification and applies it. -/
def applySpec (frame : TimeFrame) (input : Json) (spec : Json) :
    Except (Stop TransformError) Json := do
  apply frame input (← (ofSpec spec).mapError .failure)

def runChain (frame : TimeFrame) : List Json → Json → Except (Stop TransformError) Json
  | [], value => .ok value
  | spec :: specs, value => do runChain frame specs (← applySpec frame value spec)

/-- The names of the transforms that a chain applies, one that fails or crashes included. -/
def appliedNames (frame : TimeFrame) : List Json → Json → List String
  | [], _ => []
  | spec :: specs, value =>
      match ofSpec spec with
      | .error _ => []
      | .ok transform =>
          transform.name ::
            match apply frame value transform with
            | .ok result => appliedNames frame specs result
            | .error _ => []

end PageContext.Transform
