import OtelGo.Go.Bytes
import OtelGo.Go.Strconv
import OtelGo.Go.Textproto
import OtelGo.Core.SpanContext
import OtelGo.Core.Value
import OtelGo.Propagation.BinaryPropagator
import OtelGo.Bridge.Ids
import OtelGo.Bridge.Baggage
import OtelGo.Bridge.Propagation
import OtelGo.Bridge.ExtractOrder
import OtelGo.Bridge.Tags
import OtelGo.Bridge.Logs
import OtelGo.Bridge.Tracer
import OtelGo.Bridge.Warnings
import OtelGo.Sdk.BatchSpanProcessor
import OtelGo.Sdk.SpanProcessor
import OtelGo.Streaming.Format
