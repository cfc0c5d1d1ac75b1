import CloudClient.Wire.Format

namespace CloudClient

/-!
# Labels of services and codecs

How services and codecs are named in reports and in the log.

* `ServiceKind` — the two kinds of date services;
* `CodecLabel` — what is shown of a codec.
-/

/-- The kinds of date services. -/
inductive ServiceKind where
  /-- One service for all threads. -/
  | simple
  /-- A delegate for each thread. -/
  | perThread
deriving DecidableEq, Repr

/-- The name of a kind of services. -/
def ServiceKind.name : ServiceKind → String
  | simple => "SimpleDateService"
  | perThread => "ThreadLocalDateService"

/-- What is shown of a codec: its format, the kind of its service, and whether it is of the kind
    made for that one format. -/
structure CodecLabel where
  dedicated : Bool
  format : WireFormat
  service : ServiceKind
deriving DecidableEq, Repr

/-- The name of the codecs that are made for any format. -/
def genericCodecName : String := "DateServiceCodec"

/-- The name of the codecs that are made for one format. -/
def WireFormat.codecName : WireFormat → String
  | rfc1123 => "DateServiceRfc1123Codec"
  | rfc822 => "DateServiceRfc822Codec"
  | iso8601 => "DateServiceIso8601Codec"
  | iso8601Seconds => "DateServiceIso8601SecondsCodec"
  | asctime => "DateServiceAsctimeCodec"

namespace CodecLabel

/-- The name of the codec's kind. -/
def kindName (c : CodecLabel) : String :=
  if c.dedicated then c.format.codecName else genericCodecName

/-- The codec as it is shown. -/
def text (c : CodecLabel) : String :=
  c.kindName ++ "(wire_format=" ++ c.format.name ++ ", date_service=" ++ c.service.name ++ ")"

/-- The text of a codec of the kind made for its format. -/
theorem text_dedicated (format : WireFormat) (service : ServiceKind) :
    (mk true format service).text = format.codecName ++ "(wire_format=" ++ format.name ++
      ", date_service=" ++ service.name ++ ")" := rfl

end CodecLabel

end CloudClient
