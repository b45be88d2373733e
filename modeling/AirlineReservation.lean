import AirlineReservation.Library.Grid
import AirlineReservation.Library.RowTable
import AirlineReservation.Library.Run
import AirlineReservation.Library.Simulation
import AirlineReservation.Library.Reading
import AirlineReservation.Library.Words
import AirlineReservation.Library.Calendar
import AirlineReservation.Library.Query
import AirlineReservation.Library.Outcome
import AirlineReservation.Library.Program
import AirlineReservation.Library.Transactions
import AirlineReservation.Library.Buttons
import AirlineReservation.Database
import AirlineReservation.SeatMap
import AirlineReservation.PersistenceManager
import AirlineReservation.Application
import AirlineReservation.Frames
import AirlineReservation.SeatCells
import AirlineReservation.SeatMapLoading
import AirlineReservation.SeatMapRefinement
import AirlineReservation.Saving
import AirlineReservation.SavedTable
import AirlineReservation.OnlyTable
import AirlineReservation.Loading
import AirlineReservation.FlightsTable
import AirlineReservation.FlightOverload
import AirlineReservation.TableNames
import AirlineReservation.Effects
import AirlineReservation.SessionRuns
import AirlineReservation.Selection
import AirlineReservation.Agreement
import AirlineReservation.AgreementRuns
import AirlineReservation.OtherSeats
import AirlineReservation.Synced
import AirlineReservation.Commutation
import AirlineReservation.RoundTrip
import AirlineReservation.RetrievalErrors
import AirlineReservation.Isolation
import AirlineReservation.Bounds
import AirlineReservation.JsonLoading
import AirlineReservation.JsonErrors
import AirlineReservation.JsonText
import AirlineReservation.JsonRoundTrip
import AirlineReservation.SeatMapShape
import AirlineReservation.Reloading
import AirlineReservation.Interleaving
import AirlineReservation.Confirmation
import AirlineReservation.ConfirmationRuns
import AirlineReservation.FrameActions
import AirlineReservation.EditBuffers
import AirlineReservation.SharedWindows
import AirlineReservation.BufferBounds
import AirlineReservation.SeatCode
import AirlineReservation.PackedDates
import AirlineReservation.SeatButtons
import AirlineReservation.Datetimes
import AirlineReservation.AvailableFlights
import AirlineReservation.AmadeusWindow
import AirlineReservation.Statements
import AirlineReservation.StatementOutcomes
import AirlineReservation.StatementRetrieval
import AirlineReservation.StatementFrames
import AirlineReservation.StatementRuns
import AirlineReservation.CrashSafety
import AirlineReservation.OwnFlights
import AirlineReservation.WindowsApart
import AirlineReservation.FrameWrites
import AirlineReservation.Provenance
import AirlineReservation.Retention
import AirlineReservation.Restarts
import AirlineReservation.WidgetFrames
import AirlineReservation.FlightButtons
import AirlineReservation.MouseFrames
