/-!
# Topic levels

A topic is a text that slashes cut into levels. The first level is the role of the publishing agent, the second the
channel name and the third, when there is one, the instance of the agent. Two characters are special in patterns
and filters only: `+` stands for one level and `#` for all levels from its place on.
-/

namespace PubSub.Topic

/-- The characters before the first slash, and the levels after it. -/
def cut : List Char → List Char × List (List Char)
  | [] => ([], [])
  | c :: rest =>
    let further := cut rest
    if c = '/' then ([], further.1 :: further.2) else (c :: further.1, further.2)

/-- The levels of a topic. There is one level more than there are slashes, so there is always a first level. -/
def levels (topic : String) : List String :=
  let parts := cut topic.toList
  (parts.1 :: parts.2).map String.ofList

/-- The wildcard for exactly one level. -/
def singleLevel : String := "+"

/-- The wildcard for all remaining levels. -/
def multiLevel : String := "#"

def hasWildcard (text : String) : Bool :=
  text.toList.any fun c ↦ c == '+' || c == '#'

def role? (topic : String) : Option String :=
  (levels topic)[0]?

def channelName? (topic : String) : Option String :=
  (levels topic)[1]?

def instanceId? (topic : String) : Option String :=
  (levels topic)[2]?

/-- Levels put together again with a slash between neighbours. -/
def join : List String → String
  | [] => ""
  | [level] => level
  | level :: next :: rest => level ++ "/" ++ join (next :: rest)

theorem levels_ne_nil (topic : String) : levels topic ≠ [] := by
  simp [levels]

/-- A text without a slash is its own only level. -/
theorem cut_of_not_mem {text : List Char} (h : '/' ∉ text) : cut text = (text, []) := by
  induction text with
  | nil => rfl
  | cons c rest ih =>
    simp only [List.mem_cons, not_or] at h
    simp [cut, Ne.symm h.1, ih h.2]

/-- Cutting at a slash that follows a slash-free text gives that text as the first level. -/
theorem cut_append_slash {text rest : List Char} (h : '/' ∉ text) :
    cut (text ++ '/' :: rest) = (text, (cut rest).1 :: (cut rest).2) := by
  induction text with
  | nil => simp [cut]
  | cons c text ih =>
    simp only [List.mem_cons, not_or] at h
    simp [cut, Ne.symm h.1, ih h.2]

theorem levels_of_not_mem {level : String} (h : '/' ∉ level.toList) : levels level = [level] := by
  simp [levels, cut_of_not_mem h]

theorem levels_append_slash {level rest : String} (h : '/' ∉ level.toList) :
    levels (level ++ "/" ++ rest) = level :: levels rest := by
  have hsplit : (level ++ "/" ++ rest).toList = level.toList ++ '/' :: rest.toList := by simp
  simp [levels, hsplit, cut_append_slash h]

end PubSub.Topic
