import PinBridge.Session.Action
import PinBridge.Version

/-!
# The tour

A tour of a board: it finds the light board, drives its pins one by one, reads them back, and shows
what its EEPROM holds. What the tour prints, and where it pauses, is collected as `Line`s; an error
ends it where it arises (`Transcript.failure`), and the session is ended in every case.
-/

namespace PinBridge.Tour

/-- Something that the tour does for its spectator. -/
inductive Line
  | print (text : String)
  | pause (ms : Nat)
  deriving DecidableEq

/-- The course of a tour. -/
structure Transcript where
  lines : List Line
  /-- The error that has ended the tour early. -/
  failure : Option Error
  deriving DecidableEq

/-- What a step of the tour works with: the session, and the lines so far. -/
structure State where
  session : Session
  lines : List Line

/-- A step of the tour. -/
abbrev Step : Type → Type := ExceptT Error (StateT State Program)

namespace Step

/-- Adds a line. -/
def emit (line : Line) : Step Unit := modify fun s => { s with lines := s.lines ++ [line] }

/-- Prints a line of text. -/
def say (text : String) : Step Unit := emit (.print text)

/-- Waits. -/
def pause (ms : Nat) : Step Unit := emit (.pause ms)

/-- Does something with the session, and tells how it ended. -/
def attempt {α : Type} (m : Command α) : Step (Except Error α) :=
  ExceptT.mk fun s => (m s.session).bind fun (result, session) =>
    .done (.ok result, { s with session })

/-- Does something with the session. -/
def act {α : Type} (m : Command α) : Step α := do
  let result ← attempt m
  ExceptT.mk (pure result)

/-- The session as it is. -/
def session : Step Session := return (← get).session

end Step

open Step

/-- Finds the light boards, with a second look after a pause if the first one finds none. -/
def findBoards : Step (List Descriptor) := do
  let found ← act (.findAll vendorId ProductId.board)
  if found.isEmpty then
    pause 100
    act (.findAll vendorId ProductId.board)
  else return found

/-- A string for show. -/
def shown (s : Option String) : String := Quoted.text (s.getD "")

/-- Prints the strings of boards, which are numbered from `i` on. -/
def showStrings : Nat → List Descriptor → Step Unit
  | _, [] => pure ()
  | i, d :: rest => do
    let strings ← act (.getStrings d)
    say ("#" ++ toString i ++ ": manufacturer=" ++ shown strings.manufacturer ++
      " description=" ++ shown strings.description ++ " serial=" ++ shown strings.serial)
    showStrings (i + 1) rest

/-- Drives each pin for a second, the lowest first. -/
def walkPins : List Nat → Step Unit
  | [] => pure ()
  | bit :: rest => do
    let value : UInt8 := UInt8.ofNat (1 <<< bit)
    say ("enabling bit #" ++ toString bit ++ " (" ++ Hex.marked 2 value.toNat ++ ")")
    act (.writeData value)
    pause 1000
    walkPins rest

/-- Drives the pins, all of them and then one by one, and reads them back. -/
def showPins : Step Unit := do
  act (.setBitMode 0xFF .bitBang)
  say "turning everything on"
  act (.writeData 0xFF)
  pause 1000
  say "turning everything off"
  act (.writeData 0x00)
  pause 1000
  walkPins (List.range 8)
  let pins ← act .readPins
  say ("pins: " ++ Hex.marked 2 pins.toNat)
  act .disableBitMode

/-- Prints the chip ID, where the chip has one. -/
def showChipId : Step Unit := do
  match ← attempt .readChipId with
  | .ok id => say ("chip id: " ++ Hex.padded 8 id.toNat)
  | .error e => say ("chip id unavailable: " ++ e.message)

/-- Bytes in rows of eight. -/
def rows : List UInt8 → List (List UInt8)
  | [] => []
  | b :: rest => (b :: rest.take 7) :: rows (rest.drop 7)
termination_by bytes => bytes.length
decreasing_by
  rw [List.length_drop, List.length_cons]
  exact Nat.lt_succ_of_le (Nat.sub_le _ _)

/-- A row of bytes for show. -/
def rowText (row : List UInt8) : String := " ".intercalate (row.map Hex.byte)

/-- Prints lines. -/
def sayAll : List String → Step Unit
  | [] => pure ()
  | line :: rest => do
    say line
    sayAll rest

/-- The address of the EEPROM word that is shown on its own. -/
def shownWord : UInt16 := 1

/-- The most bytes of the EEPROM that are shown. -/
def shownSize : Nat := 128

/-- Prints a word of the EEPROM, and then the start of its image. -/
def showEeprom : Step Unit := do
  let word ← act (.readEepromWord shownWord)
  say ("eeprom @ " ++ toString shownWord.toNat ++ ": " ++ Hex.marked 4 word.toNat)
  act .readEeprom
  let staged := (← session).staged
  let size := min ((staged.map (·.size)).getD 0) shownSize
  let verified := (staged.map (·.verifies)).getD false
  say ("eeprom (" ++ toString size ++ " bytes, checksum ok: " ++ toString verified ++ "):")
  let bytes ← act (.stagedPart size)
  sayAll ((rows bytes).map rowText)

/-- The stations of the tour. -/
def stations : Step Unit := do
  let boards ← findBoards
  say ("devices: " ++ toString boards.length)
  showStrings 0 boards
  act (.openIds vendorId ProductId.board)
  let chip ← act ((·.chip) <$> Command.device)
  say ("chip type: " ++ chip.name)
  showPins
  showChipId
  showEeprom
  act .close
  say "device closed"

/-- The line that opens the tour. -/
def greeting : String :=
  "version: " ++ Version.current.number ++ " (" ++ Version.current.snapshot ++ ")"

/-- The tour on a session of its own. -/
def tour : Program Transcript :=
  match Session.new .default with
  | .error e => .done ⟨[.print greeting], some e⟩
  | .ok session =>
    (stations ⟨session, [.print greeting]⟩).bind fun (result, state) =>
      (Command.drop state.session).bind fun _ =>
        match result with
        | .ok () => .done ⟨state.lines, none⟩
        | .error e => .done ⟨state.lines, some e⟩

/-- What is told of an error that has ended the tour. -/
def failureText (e : Error) : String := "Error: " ++ e.inspect

end PinBridge.Tour
