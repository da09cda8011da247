import PinBridge.Session.Basic
import PinBridge.Text.Span

/-!
# Sessions in words

The one-line forms of options and sessions that go into reports.
-/

namespace PinBridge

/-- The options in words. -/
def Options.text (o : Options) : String :=
  Fields.text "Options"
    [("interface", o.interface.name),
      ("read_timeout", Span.text o.readTimeout),
      ("write_timeout", Span.text o.writeTimeout),
      ("read_chunksize", toString o.readChunk),
      ("write_chunksize", toString o.writeChunk)]

/-- The device's part of a session in words. -/
def OpenDevice.fields (d : OpenDevice) : List (String × String) :=
  [("chip_type", d.chip.name), ("mode", d.mode.text), ("baudrate", toString d.baudRate.toNat)]

/-- The session in words. -/
def Session.text (s : Session) : String :=
  let device := match s.link with
    | .opened d => d.fields
    | _ => []
  Fields.textAndMore "BriteBlox"
    ([("state", s.status.name)] ++ device ++ [("options", s.options.text)])

end PinBridge
