import VesselTraffic.Datum.Forms
import VesselTraffic.Feed
import VesselTraffic.Grid
import VesselTraffic.Settings
import VesselTraffic.StationTable
import VesselTraffic.Stream

/-!
# The decode command

Decodes all lines of a feed and prints every message, or one table of the stations
at the end. What is printed is computed here; nothing is read or written.
-/
namespace VesselTraffic.Command

inductive Format
  | plain
  | json
  | summary
  deriving DecidableEq, Repr

/-- The options of the command. They decide over the settings. -/
structure Options where
  format : Format := .plain
  strict : Bool := false
  source : Option String := none
  deriving DecidableEq, Repr

/-- What a run prints, and its exit status. -/
structure Printed where
  status : UInt32
  output : String
  errors : String
  deriving DecidableEq, Repr

/-- A run on its way through a feed. Lines printed are kept in reverse. -/
structure Session where
  stream : Stream
  table : StationTable := {}
  printed : List String := []

/-- The times of a message are not observed; they are written as zero. -/
def metadataMembers (m : Metadata) : List Member :=
  [.named "source" (.text m.source),
   .named "received" (.nat 0),
   .named "decode_duration" (.nat 0),
   .named "tag_block" (.ofOption TagBlock.datum m.tagBlock),
   .named "channel" (.ofOption .letter m.channel)]

/-- One message with its metadata. -/
def recordOf (d : Delivery) : Datum :=
  .record "Delivery" .silent
    [.named "metadata" (.record "Metadata" .silent (metadataMembers d.metadata)),
     .named "message" d.message.datum]

namespace Session

def start (settings : Settings) (options : Options) : Session :=
  let mode := if options.strict then .strict else settings.checksum
  { stream := (Stream.new (options.source.getD settings.source) mode).addReceiver }

def receive (format : Format) (s : Session) (d : Delivery) : Session :=
  match format with
  | .plain => { s with printed := d.message.datum.plain :: s.printed }
  | .json => { s with printed := (recordOf d).keyed.compact :: s.printed }
  | .summary => { s with table := s.table.update d.message }

/-- Takes one line. Refusals are counted by the stream. -/
def line (format : Format) (s : Session) (text : String) : Session :=
  let accepted := s.stream.accept text
  accepted.deliveries.foldl (receive format) { s with stream := accepted.next }

end Session

def titles : List String := ["MMSI", "Name", "Last type", "Lat", "Lon", "SOG (kn)", "Msgs"]

/-- The cells of a station, a dash for what is not known. -/
def cells (s : Station) : List String :=
  let orDash (text : Option String) := text.getD "-"
  [String.ofList (Text.zeroPadded 9 (Nat.toDigits 10 s.mmsi.toNat)),
   orDash s.name,
   toString s.lastType.toNat,
   orDash (s.position.map fun p => p.latitude.value.fixed 4),
   orDash (s.position.map fun p => p.longitude.value.fixed 4),
   orDash (s.knots.map fun k => k.value.fixed 1),
   toString s.messages]

def summaryLine (stream : Stream) (stations : Nat) : String :=
  let c := stream.counts
  "Lines: " ++ toString c.lines ++ " read, " ++ toString c.rejected ++ " rejected; frames: "
    ++ toString c.frames ++ " assembled, " ++ toString c.decoded ++ " decoded; "
    ++ toString stations ++ " stations"

def countsLine (stream : Stream) : String :=
  let c := stream.counts
  toString c.lines ++ " lines, " ++ toString c.decoded ++ " decoded, " ++ toString c.rejected
    ++ " rejected, " ++ toString c.failures ++ " failed"

/-- The lines of the table at the end, without a table if there is no station. -/
def summaryLines (stream : Stream) (table : StationTable) : List String :=
  let stations := table.sorted
  ["", summaryLine stream stations.length, ""]
    ++ if stations.isEmpty then [] else Grid.lines titles (stations.map cells)

def ended (lines : List String) : String := String.join (lines.map (· ++ "\n"))

def finish (format : Format) (s : Session) : Printed :=
  match format with
  | .summary => ⟨0, ended (summaryLines s.stream s.table), ""⟩
  | _ => ⟨0, ended s.printed.reverse, ended [countsLine s.stream]⟩

/-- Runs the command on the bytes of a feed. -/
def run (settings : Settings) (options : Options) (feed : List UInt8) : Printed :=
  let lines := Feed.fileLines feed
  finish options.format
    (lines.foldl (Session.line options.format) (Session.start settings options))

/-- A feed that cannot be opened. -/
def cannotOpen (path reason : String) : Printed :=
  ⟨1, "", ended ["Error opening " ++ path ++ ": " ++ reason]⟩

/-- The reason why a missing file cannot be opened. -/
def noSuchFile : String := "No such file or directory (os error 2)"

end VesselTraffic.Command
