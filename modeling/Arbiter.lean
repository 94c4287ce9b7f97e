import Arbiter.Scenario.Database
import Arbiter.Scenario.Step
import Arbiter.Settings
import Arbiter.Stream.Frame
import Arbiter.Proofs.Session.Linearization
import Arbiter.Proofs.Session.SubmitCount
import Arbiter.Proofs.Session.Calls
import Arbiter.Proofs.Desk.SubmitLog
import Arbiter.Proofs.Session.Orphan
import Arbiter.Proofs.Stream.ConsumerCourse
import Arbiter.Proofs.Stream.Backlog
import Arbiter.Proofs.Stream.DeliveryCourse
import Arbiter.Proofs.Stream.Acknowledge
import Arbiter.Proofs.Session.Acknowledged
import Arbiter.Proofs.Store.Veil
import Arbiter.Proofs.Judging.AppliedStore
import Arbiter.Proofs.Desk.Discretion
import Arbiter.Proofs.Http.Discretion
import Arbiter.Proofs.Desk.Circumstances
import Arbiter.Proofs.Http.Noninterference
import Arbiter.Proofs.Http.History
import Arbiter.Proofs.Store.Deleted
import Arbiter.Proofs.Judging.Redelivery
import Arbiter.Proofs.Judging.WellFormed
import Arbiter.Proofs.Session.Grounds
import Arbiter.Proofs.Session.WellFormed
import Arbiter.Proofs.Desk.Clearance
import Arbiter.Proofs.Desk.Clocks
import Arbiter.Proofs.Http.ClaimedRole
import Arbiter.Proofs.Http.Admittance
import Arbiter.Proofs.Http.TurnedAway
import Arbiter.Proofs.Sql.CompleteCourse
import Arbiter.Proofs.Sql.Completion
import Arbiter.Proofs.Judging.Retry
import Arbiter.Proofs.Desk.Admission
import Arbiter.Proofs.Submission.Age
import Arbiter.Proofs.Store.Pages
import Arbiter.Proofs.Store.Overdue
import Arbiter.Proofs.Judging.SweepLog
import Arbiter.Proofs.Judging.Sweeping
import Arbiter.Proofs.Judging.Exceeded
import Arbiter.Proofs.Desk.Best
import Arbiter.Proofs.Stream.Abandoned
import Arbiter.Proofs.Wire.Outcome
import Arbiter.Proofs.Wire.Request
import Arbiter.Proofs.Http.Submitting
import Arbiter.Proofs.Http.Concealment
import Arbiter.Proofs.Judging.Simulation
import Arbiter.Proofs.Json.Reading
import Arbiter.Proofs.Judging.Summary
import Arbiter.Proofs.Store.Profile
import Arbiter.Proofs.Session.Profile
import Arbiter.Proofs.Dispatch.Failover
import Arbiter.Proofs.Stream.Reading
import Arbiter.Proofs.Session.Statistics
import Arbiter.Proofs.Store.Deeds
import Arbiter.Proofs.Judging.Late
