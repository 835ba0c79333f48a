import EvmScope.Text.Utf8

/-!
# Texts on a terminal

What a terminal shows of a text in which there may be codes that tell it what to do. A code begins
with the escape character; what follows says of which kind it is and thus where it ends. Of a text
with a code that has no end nothing more is shown, but a line break or tab within the code, where
its kind lets them through, ends it as well.
-/

namespace EvmScope.Text

set_option autoImplicit false

/-- Where a reader of a text with codes stands. -/
inductive CodeStage
  /-- Outside of codes. -/
  | outside
  /-- Behind the escape character. -/
  | escape
  /-- Behind the escape character and some marks. -/
  | escapeMarks
  /-- Within a control sequence, which a letter or a mark beyond the digits ends. -/
  | control
  /-- At the start of a device command. -/
  | deviceStart
  /-- Within the numbers of a device command. -/
  | deviceNumbers
  /-- Behind the marks of a device command. -/
  | deviceMarks
  /-- Within a text that is meant for the device. -/
  | deviceText
  /-- Within a command to the operating system, which the bell ends. -/
  | systemText
  deriving DecidableEq, Repr

namespace CodeStage

/-- Whether a character is a tab or ends a line or page. -/
def isBreak (c : Char) : Bool :=
  c ∈ ['\t', '\n', '\r', '\x0c']

def shows : CodeStage → Char → Bool
  | outside, c => (0x20 ≤ c.toNat && c.toNat ≠ 0x7f) || isBreak c
  | escape, c | escapeMarks, c | control, c => isBreak c
  | _, _ => false

/-- Whether a character ends a text for the device: one beyond ASCII does if the byte of the string
terminator is one of its bytes. -/
def endsDeviceText (c : Char) : Bool :=
  0x80 ≤ c.toNat && (String.utf8EncodeChar c).contains 0x9c

/-- The stage behind the escape character and one more. -/
def afterEscape (c : Char) : CodeStage :=
  let n := c.toNat
  if c = '[' then control
  else if c = ']' then systemText
  else if c = 'P' then deviceStart
  else if c ∈ ['X', '^', '_'] then deviceText
  else if 0x20 ≤ n && n < 0x30 then escapeMarks
  else if 0x30 ≤ n && n < 0x7f then outside
  else escape

/-- The stage behind a character of a device command, from a stage before its text. -/
def afterDevice (stage : CodeStage) (c : Char) : CodeStage :=
  let n := c.toNat
  if 0x20 ≤ n && n < 0x30 then deviceMarks
  else if 0x30 ≤ n && n < 0x40 then
    if stage = deviceStart || (stage = deviceNumbers && n < 0x3c) then deviceNumbers else deviceText
  else if 0x40 ≤ n && n < 0x7f then deviceText
  else stage

/-- The stage behind a character that is not shown. -/
def next (stage : CodeStage) (c : Char) : CodeStage :=
  let n := c.toNat
  if n = 0x1b then escape
  else if n = 0x18 || n = 0x1a then outside
  else match stage with
    | outside => outside
    | escape => afterEscape c
    | escapeMarks => if 0x30 ≤ n && n < 0x7f then outside else escapeMarks
    | control => if 0x40 ≤ n && n < 0x7f then outside else control
    | deviceText => if endsDeviceText c then outside else deviceText
    | systemText => if n = 0x07 then outside else systemText
    | stage => afterDevice stage c

/-- What is shown of a text that begins in a stage. -/
def shown : CodeStage → List Char → List Char
  | _, [] => []
  | stage, c :: s => if stage.shows c then c :: shown outside s else shown (stage.next c) s

end CodeStage

def shown (s : List Char) : List Char :=
  CodeStage.outside.shown s

end EvmScope.Text
