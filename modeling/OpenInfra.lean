import OpenInfra.Agent.Ceiling
import OpenInfra.Agent.Expiry
import OpenInfra.Agent.Images
import OpenInfra.Agent.RateLimit
import OpenInfra.Agent.SecurityGroups
import OpenInfra.Agent.Upkeep
import OpenInfra.Availability.Liveness
import OpenInfra.Bridge.Displacement
import OpenInfra.Bridge.Scale
import OpenInfra.Cinder.Attachments
import OpenInfra.Cinder.Deletion
import OpenInfra.ControlPlane.Allocation
import OpenInfra.Escrow.Lifecycle
import OpenInfra.Escrow.Refund
import OpenInfra.Frontend.Release
import OpenInfra.Join.Bandwidth
import OpenInfra.Join.Certificates
import OpenInfra.Join.Heartbeats
import OpenInfra.Join.SingleUse
import OpenInfra.Lease.Lifecycle
import OpenInfra.Metering.Periods
import OpenInfra.Metering.Quarantine
import OpenInfra.Metering.Settlement
import OpenInfra.Metering.Windows
import OpenInfra.Neutron.FixedIPs
import OpenInfra.Neutron.Pools
import OpenInfra.Neutron.Update
import OpenInfra.OpenStack.Reads
import OpenInfra.Registry.Activation
import OpenInfra.Reputation.RoundTrip
import OpenInfra.Rewards.Points
import OpenInfra.Rounds.Lifecycle
import OpenInfra.Rounds.Membership
import OpenInfra.Rounds.Rollback
import OpenInfra.Slashing.Exit
