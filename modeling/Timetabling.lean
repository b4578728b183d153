import Timetabling.Calendar.SlotKey
import Timetabling.Configuration.Basic
import Timetabling.Problem.Audit
import Timetabling.Random.MersenneTwister
import Timetabling.Request.Body
import Timetabling.Search.Exact
import Timetabling.Search.Genetic
import Timetabling.Service.Routes
import Timetabling.Solve
import Timetabling.Proofs.Occupancy
import Timetabling.Proofs.DepthFirst
import Timetabling.Proofs.Position
import Timetabling.Proofs.ExactSearch
import Timetabling.Proofs.Acceptance
import Timetabling.Proofs.Auditing
import Timetabling.Proofs.Draws
import Timetabling.Proofs.Population
import Timetabling.Proofs.Quotients
import Timetabling.Proofs.Replay
import Timetabling.Proofs.Evolution
import Timetabling.Proofs.Outcome
import Timetabling.Proofs.Iterations
import Timetabling.Proofs.Reading
import Timetabling.Proofs.Requests
import Timetabling.Proofs.Verdict
import Timetabling.Proofs.Agreement
import Timetabling.Proofs.Resubmission
import Timetabling.Proofs.Leader
import Timetabling.Proofs.Drawing
import Timetabling.Proofs.Stocked
import Timetabling.Proofs.Renaming.Basic
import Timetabling.Proofs.Renaming.ExactSearch
import Timetabling.Proofs.Renaming.Genomes
import Timetabling.Proofs.Renaming.Evolution
import Timetabling.Proofs.Indifference
import Timetabling.Proofs.Easing
import Timetabling.Proofs.Spelling
import Timetabling.Proofs.Posing
import Timetabling.Proofs.Rounds
import Timetabling.Proofs.Findings
import Timetabling.Proofs.Holdings
import Timetabling.Proofs.SlotKeys
import Timetabling.Proofs.Rereading
import Timetabling.Proofs.Answering
import Timetabling.Proofs.Additions
import Timetabling.Proofs.KeyForms
import Timetabling.Proofs.Elites
import Timetabling.Proofs.Allowance
import Timetabling.Proofs.Rounding
import Timetabling.Proofs.Accounting
import Timetabling.Proofs.Stopping
import Timetabling.Proofs.Recomputation
import Timetabling.Proofs.Founders
import Timetabling.Proofs.Variation
import Timetabling.Proofs.Selection
import Timetabling.Proofs.Statistics
import Timetabling.Proofs.Bookings
import Timetabling.Proofs.Rosters
import Timetabling.Proofs.Minutes
import Timetabling.Proofs.Refusals
import Timetabling.Proofs.JsonTexts
import Timetabling.Proofs.Listings
import Timetabling.Proofs.Configured
