import AxisMetrics.Store.Window
import AxisMetrics.Store.Memory
import AxisMetrics.Store.Downsample
import AxisMetrics.Persist.Mirror
import AxisMetrics.Persist.Reopen
import AxisMetrics.Alerts.Edits
import AxisMetrics.Alerts.Announce
import AxisMetrics.Mqtt.Mirror
import AxisMetrics.Settings.Session
import AxisMetrics.Mqtt.Discovery
import AxisMetrics.Api.Prometheus
import AxisMetrics.Procs
import AxisMetrics.Alerts.Document
import AxisMetrics.Influx.Queue
import AxisMetrics.Http.Privacy
import AxisMetrics.Http.Whole
import AxisMetrics.Transmit
import AxisMetrics.Collect.Slots
import AxisMetrics.Persist.Late
import AxisMetrics.Influx.Exporters
import AxisMetrics.Alerts.Payloads
import AxisMetrics.Alerts.Restart
import AxisMetrics.Alerts.Retune
import AxisMetrics.Alerts.Cover
import AxisMetrics.Alerts.SwitchOff
import AxisMetrics.Page.RuleTrip
import AxisMetrics.Collect.MountTable
import AxisMetrics.Collect.CpuShares
import AxisMetrics.Collect.Rates
import AxisMetrics.Collect.PortStatuses
import AxisMetrics.Collect.Temperatures
import AxisMetrics.Procs.Baseline
import AxisMetrics.Http.Routing
import AxisMetrics.Http.Segments
import AxisMetrics.Settings.Form
import AxisMetrics.Store.MemoryCap
import AxisMetrics.Persist.Torn
import AxisMetrics.Persist.Safety
import AxisMetrics.Store.ClockStep
import AxisMetrics.Alerts.RealTime
import AxisMetrics.Procs.StatLine
import AxisMetrics.Api.Escapers
import AxisMetrics.Metrics.Growth
import AxisMetrics.Influx.Points
import AxisMetrics.Mqtt.ObjectIds
import AxisMetrics.Api.Exposition
import AxisMetrics.Page.SwitchedOff
import AxisMetrics.Http.Viewer
import AxisMetrics.Settings.InForce
import AxisMetrics.Persist.InOrder
import AxisMetrics.Api.Answers
import AxisMetrics.Http.LiveView
import AxisMetrics.Http.Response
import AxisMetrics.Page.Charts
import AxisMetrics.Influx.Writer
import AxisMetrics.Mqtt.Entities
import AxisMetrics.Procs.Listing
import AxisMetrics.Collect.Newest
