import AlertDelivery.Database
import AlertDelivery.Log
import AlertDelivery.Rehearsal.Application
import AlertDelivery.Proofs.Api.Operators
import AlertDelivery.Proofs.Api.Resubmission
import AlertDelivery.Proofs.Api.Secrecy
import AlertDelivery.Proofs.Catalog.NormalForm
import AlertDelivery.Proofs.Channel.Mishaps
import AlertDelivery.Proofs.Queue.Attempts
import AlertDelivery.Proofs.Queue.Claiming
import AlertDelivery.Proofs.Queue.ClaimOwnership
import AlertDelivery.Proofs.Queue.DueTimes
import AlertDelivery.Proofs.Queue.Eligibility
import AlertDelivery.Proofs.Queue.Failures
import AlertDelivery.Proofs.Service.Attribution
import AlertDelivery.Proofs.Service.ChannelHealth
import AlertDelivery.Proofs.Service.Custody
import AlertDelivery.Proofs.Service.Fleet
import AlertDelivery.Proofs.Service.HeldIds
import AlertDelivery.Proofs.Service.Ledger
import AlertDelivery.Proofs.Service.LimitChanges
import AlertDelivery.Proofs.Service.Reloading
import AlertDelivery.Proofs.Service.Restart
import AlertDelivery.Proofs.Rehearsal.Draining
import AlertDelivery.Proofs.Service.Addressing
import AlertDelivery.Proofs.Service.Verdicts
import AlertDelivery.Proofs.Policy.Bounds
import AlertDelivery.Proofs.Queue.Statistics
import AlertDelivery.Proofs.Rehearsal.Trials
import AlertDelivery.Proofs.Service.Starting
import AlertDelivery.Proofs.Queue.Requeueing
import AlertDelivery.Proofs.Channel.PhoneNumbers
import AlertDelivery.Proofs.Service.Resolution
import AlertDelivery.Proofs.Service.Outages
import AlertDelivery.Proofs.Store.Paging
import AlertDelivery.Proofs.Service.Retention
import AlertDelivery.Proofs.History.Summary
import AlertDelivery.Proofs.Log.Lines
