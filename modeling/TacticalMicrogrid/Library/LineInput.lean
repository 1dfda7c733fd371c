import Mathlib.Data.List.TakeWhile
import Mathlib.Tactic.Common

/-!
# Reading a text line by line

`std::getline` on an input stream: it reads up to the next line break or the end of the text. Once
it has met the end, the stream is not good any more, and a further call leaves the string that it
should fill as it is.

## Main definitions

* `LineInput`, `LineInput.getline`.
* `LineInput.lines`: the lines that are still to be read.

## Main results

* `LineInput.lines_getline`: a stream that is good gives its lines one after the other.
-/

/-- The text that has not been read, and whether its end has not been met. -/
structure LineInput where
  rest : List Char
  good : Bool := true
deriving DecidableEq

namespace LineInput

variable (input : LineInput) (line : String)

/-- `std::getline(input, line)`. -/
def getline : LineInput × String :=
  if input.good then
    match input.rest.dropWhile (· != '\n') with
    | [] => (⟨[], false⟩, String.ofList input.rest)
    | _ :: rest => (⟨rest, true⟩, String.ofList (input.rest.takeWhile (· != '\n')))
  else (input, line)

/-- The lines of the text that has not been read. -/
def lines : List String :=
  if input.good then (input.rest.splitOn '\n').map String.ofList else []

variable {input}

theorem getline_of_not_good (h : input.good = false) : input.getline line = (input, line) := by
  rw [getline, h]
  rfl

/-- The next line is read, and the others are left. -/
theorem lines_getline (h : input.good = true) :
    input.lines = (input.getline line).2 :: (input.getline line).1.lines := by
  have hsplit := List.takeWhile_append_dropWhile (p := (· != '\n')) (l := input.rest)
  have hnone : ∀ ch ∈ input.rest.takeWhile (· != '\n'), (ch == '\n') = false :=
    fun ch hch => by simpa using List.mem_takeWhile_imp hch
  rw [lines, getline, if_pos h, if_pos h, List.splitOn_eq_splitOnP]
  cases hdrop : input.rest.dropWhile (· != '\n') with
  | nil =>
    rw [hdrop, List.append_nil] at hsplit
    rw [hsplit] at hnone
    rw [List.splitOnP_eq_singleton hnone]
    rfl
  | cons ch rest =>
    have hbreak : (ch == '\n') = true := by
      have hhead := List.head_dropWhile_not (· != '\n') (l := input.rest) (by rw [hdrop]; simp)
      simpa [hdrop] using hhead
    rw [hdrop] at hsplit
    conv_lhs => rw [← hsplit]
    rw [List.splitOnP_append_cons_of_forall_mem hnone ch hbreak]
    rfl

end LineInput
